import Cql.Grammar.Frontier
import Cql.Text.Offset
import Cql.Text.WhiteSpace

/-!
# Syntax errors

A syntax error names a place in the filter and says what stands there and what was expected instead.
-/

namespace Cql

/-- A mistake in a filter: its line and column, its byte offset, and what is wrong. -/
structure SyntaxError extends Text.Position where
  offset : Nat
  message : String
  deriving DecidableEq, Repr

namespace SyntaxError

def ofOffset (text : List Char) (offset : Nat) (message : String) : SyntaxError :=
  { toPosition := Text.positionAt text offset, offset, message }

/-- The error with its place; the line is left out on the first one. -/
def render (error : SyntaxError) : String :=
  if error.line > 1 then
    s!"syntax error at line {error.line}, column {error.column}: {error.message}"
  else
    s!"syntax error at column {error.column}: {error.message}"

def renderAll (errors : List SyntaxError) : String :=
  String.intercalate "; " (errors.map render)

end SyntaxError

namespace Filter

def quoteLimit : Nat := 16

/-- What stands at a byte offset: the characters up to the next white space, cut off after
`quoteLimit`. -/
def offendingText (text : List Char) (offset : Nat) : List Char :=
  match Text.splitAtByte? text offset with
  | some (_, rest) => (rest.takeWhile fun c => !Text.isWhiteSpace c).take quoteLimit
  | none => []

def describeOffending (text : List Char) (offset : Nat) : String :=
  match offendingText text offset with
  | [] => "end of input"
  | found => "'" ++ String.ofList found ++ "'"

def insertLabel (label : String) : List String → List String
  | [] => [label]
  | first :: others =>
      if label = first then first :: others
      else if label < first then label :: first :: others
      else first :: insertLabel label others

def expectedLabels (rules : List Rule) : List String :=
  rules.foldr (fun rule labels => insertLabel rule.label labels) []

def describeFailure (text : List Char) (offset : Nat) (rules : List Rule) : String :=
  let found := describeOffending text offset
  if rules.isEmpty then s!"unexpected {found}"
  else
    let expected := String.intercalate ", " (expectedLabels rules)
    s!"unexpected {found}, expected {expected}"

def failureAt (text : List Char) (offset : Nat) (rules : List Rule) : SyntaxError :=
  SyntaxError.ofOffset text offset (describeFailure text offset rules)

end Filter

end Cql
