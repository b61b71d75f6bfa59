import Cql.Command.Report

/-!
# The command `cql2sql`

The outermost layer: it reads the files that a request needs and prints the report.
-/

namespace Cql.Command

/-- All bytes of a stream. -/
partial def readAll (stream : IO.FS.Stream) (done : ByteArray) : IO ByteArray := do
  let chunk ← stream.read 65536
  if chunk.isEmpty then return done else readAll stream (done ++ chunk)

def readErrorOf : IO.Error → ReadError
  | .noFileOrDirectory .. => .notFound
  | .inappropriateType _ code _ => if code == 21 then .isDirectory else .notDirectory
  | .permissionDenied .. => .denied
  | error => .system 5 "Other" error.toString

def readText (action : IO ByteArray) : IO (Except ReadError String) := do
  match ← action.toBaseIO with
  | .ok bytes => return decodeText bytes
  | .error error => return .error (readErrorOf error)

def perform (request : Request) (draws : Draws) : IO Report := do
  match request with
  | .run _ .standardInput =>
      let input ← readText (do readAll (← IO.getStdin) ByteArray.empty)
      return request.report draws input fun _ => .error .notFound
  | .run _ (.file path) =>
      let text ← readText (IO.FS.readBinFile path)
      return request.report draws (.ok "") fun _ => text
  | _ => return request.report draws (.ok "") fun _ => .error .notFound

end Cql.Command

open Cql Cql.Command in
def main (arguments : List String) : IO UInt32 := do
  let seed ← IO.rand 0 (UInt64.size - 1)
  let request := Request.ofArguments arguments
  let report ← perform request (Draws.seeded (UInt64.ofNat seed))
  IO.print report.output
  match report.errorLine with
  | some line => IO.eprintln line
  | none => if request = .unusable then IO.eprintln usage
  return UInt32.ofNat report.exitCode
