import Cql.Sql.Fragment
import Cql.Text.Escaped

/-!
# Operands

A filter is compiled bottom up: each part of a filter leaves an operand, and the part around it
combines the operands of its parts into one. Operands are kept on a stack; taking one from an empty
stack gives an empty fragment.
-/

namespace Cql.Sql

inductive Operand where
  /-- SQL text; `closed` says that it can stand in a chain of conditions as it is. -/
  | expr (sql : Fragment) (closed : Bool)
  /-- A column. -/
  | column (sql : Fragment)
  /-- A number or a truth value; `bound` says that it is a placeholder. -/
  | scalar (sql : Fragment) (bound : Bool)
  /-- The open end of an interval. -/
  | openEnd
  /-- An interval; an end that is missing is open. -/
  | interval (first last : Option Fragment)
  deriving DecidableEq, Repr

namespace Operand

/-- SQL text that needs brackets before it joins a chain of conditions. -/
def loose (sql : Fragment) : Operand :=
  .expr sql false

def closed (sql : Fragment) : Operand :=
  .expr sql true

def blank : Operand :=
  .loose []

def isClosed : Operand → Bool
  | .expr _ closed => closed
  | _ => false

def isColumn : Operand → Bool
  | .column _ => true
  | _ => false

def describeFlag (value : Bool) : String :=
  if value then "true" else "false"

def describeLimit : Option Fragment → String
  | none => "None"
  | some sql => "Some(" ++ Text.quoted sql.render ++ ")"

def describe : Operand → String
  | .expr sql closed =>
      "Expr \x7b sql: " ++ Text.quoted sql.render ++ ", enclosed: " ++ describeFlag closed
        ++ " \x7d"
  | .column sql => "Column(" ++ Text.quoted sql.render ++ ")"
  | .scalar sql bound =>
      "Scalar \x7b sql: " ++ Text.quoted sql.render ++ ", bound: " ++ describeFlag bound ++ " \x7d"
  | .openEnd => "Open"
  | .interval first last =>
      "Interval \x7b start: " ++ describeLimit first ++ ", end: " ++ describeLimit last ++ " \x7d"

end Operand

abbrev Stack := List Operand

namespace Stack

def pop : Stack → Operand × Stack
  | [] => (.blank, [])
  | top :: below => (top, below)

/-- The top `n` operands, the deepest of them first, and the stack below them. Operands that are
missing are taken to be empty ones at the bottom. -/
def splitTop (stack : Stack) (n : Nat) : List Operand × Stack :=
  let taken := stack.take n
  (List.replicate (n - taken.length) .blank ++ taken.reverse, stack.drop n)

end Stack

end Cql.Sql
