import Cql.Command.Request
import Cql.Compile.Filter
import Cql.Text.Json

/-!
# What a command prints

Each task turns the text of a filter into a report: an exit code, what goes to the standard output,
and what went wrong.
-/

namespace Cql.Command

inductive ReadError where
  /-- The system refused, for a reason that has a code, a kind and a message. -/
  | system (code : Nat) (kind message : String)
  /-- The bytes are no UTF-8 text. -/
  | notText
  deriving DecidableEq, Repr

namespace ReadError

def notFound : ReadError :=
  .system 2 "NotFound" "No such file or directory"

def isDirectory : ReadError :=
  .system 21 "IsADirectory" "Is a directory"

def notDirectory : ReadError :=
  .system 20 "NotADirectory" "Not a directory"

def denied : ReadError :=
  .system 13 "PermissionDenied" "Permission denied"

def describe : ReadError → String
  | .system code kind message =>
      s!"Os \x7b code: {code}, kind: {kind}, message: " ++ Text.quoted message ++ " \x7d"
  | .notText =>
      "Error \x7b kind: InvalidData, message: "
        ++ Text.quoted "stream did not contain valid UTF-8" ++ " \x7d"

end ReadError

inductive TaskError where
  | missingFilter
  | unreadable (reason : ReadError)
  | malformed (errors : List SyntaxError)
  | notCompiled (reason : CompileError)
  deriving DecidableEq, Repr

def TaskError.describe : TaskError → String
  | .missingFilter => "MissingFilter"
  | .unreadable reason => "FilterRead(" ++ reason.describe ++ ")"
  | .malformed errors => "Syntax(" ++ SyntaxError.describeAll errors ++ ")"
  | .notCompiled reason => "Compile(" ++ reason.describe ++ ")"

structure Report where
  exitCode : Nat := 0
  output : String := ""
  failure : Option TaskError := none
  deriving DecidableEq, Repr

namespace Report

def ofFailure (failure : TaskError) : Report :=
  { exitCode := 1, failure := some failure }

def ofLine (line : String) : Report :=
  { output := line ++ "\n" }

def errorLine (report : Report) : Option String :=
  report.failure.map fun failure => "Error: " ++ failure.describe

end Report

def insertParam (param : String × String) : Parameters → Parameters
  | [] => [param]
  | first :: others =>
      if param.1 < first.1 then param :: first :: others else first :: insertParam param others

def renderCompiled (filter : SqlFilter) : String :=
  let params := filter.params.foldr insertParam []
  Text.jsonObject "" [("sql", Text.jsonString filter.sql),
    ("params", Text.jsonObject "  "
      (params.map fun param => (param.1, Text.jsonString param.2)))]

def checkFilter (filter : String) : Report :=
  if Text.isBlank filter then Report.ofLine "ok"
  else
    match Filter.parse filter with
    | .ok _ => Report.ofLine "ok"
    | .error errors =>
        { Report.ofLine (String.intercalate "\n" (errors.map SyntaxError.render)) with
          exitCode := 1 }

def printTree (filter : String) : Report :=
  match Filter.parse filter with
  | .ok tree => Report.ofLine tree.render
  | .error errors => Report.ofFailure (.malformed errors)

def Task.run (task : Task) (draws : Draws) (filter : String) : Report :=
  match task with
  | .check => checkFilter filter
  | .tree => printTree filter
  | .compile dialect queryables literals =>
      let setting : Setting :=
        { dialect, queryables := Queryables.ofList queryables, literals, draws }
      match setting.compile filter with
      | .ok compiled => Report.ofLine (renderCompiled compiled)
      | .error reason => Report.ofFailure (.notCompiled reason)

def versionLine : String := "cql2sql 0.1.0"

def usage : String :=
  "Usage: cql2sql [--verbose] <compile|check|tree> [FILTER] [--file <FILE>]\n"
    ++ "       compile: --queryables <LIST> [--dialect <DIALECT>] [--inline-numbers] "
    ++ "[--inline-booleans]"

/-- Carries out a request, given how to read a filter that is not an argument: `input` is what
stands on the standard input, and `read` looks a file up. -/
def Request.report (request : Request) (draws : Draws) (input : Except ReadError String)
    (read : String → Except ReadError String) : Report :=
  let ofText (task : Task) : Except ReadError String → Report
    | .ok filter => task.run draws filter
    | .error reason => Report.ofFailure (.unreadable reason)
  match request with
  | .version => Report.ofLine versionLine
  | .help => Report.ofLine usage
  | .unusable => { exitCode := 2 }
  | .run task source =>
      match source with
      | .argument filter => task.run draws filter
      | .standardInput => ofText task input
      | .file path => ofText task (read path)
      | .missing => Report.ofFailure .missingFilter

def decodeText (bytes : ByteArray) : Except ReadError String :=
  match String.fromUTF8? bytes with
  | some text => .ok text
  | none => .error .notText

end Cql.Command
