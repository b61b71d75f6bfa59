import Cql.Filter.Nesting
import Cql.Grammar.Pattern
import Cql.Text.Alphanumeric
import Cql.Text.Offset

/-!
# Resuming after an error

The conditions of a filter are joined by `AND` and `OR`. After a mistake in one of them the next
connective outside quotes is a place from which the rest can be read on its own.
-/

namespace Cql.Filter

/-- A place from which to resume: the byte right after a connective, the text that follows, and the
number of brackets open there. -/
structure Resumption where
  offset : Nat
  depth : Nat
  rest : List Char
  deriving DecidableEq, Repr

/-- Whether a character next to a connective makes it part of a longer word. -/
def isWordPart (c : Char) : Bool :=
  Text.isAlphanumeric c || c == '_' || c == '.' || c == ':'

def afterWord? (word : String) (cs : List Char) : Option (List Char) :=
  match Grammar.takeWord Text.sameLetter word.toList cs with
  | some (_, rest) => if rest.head?.any isWordPart then none else some rest
  | none => none

/-- The connective at the front of a text: its size in bytes and the text after it. -/
def connective? (cs : List Char) : Option (Nat × List Char) :=
  match afterWord? "and" cs with
  | some rest => some (3, rest)
  | none => (afterWord? "or" cs).map fun rest => (2, rest)

/-- The first connective that begins at byte `start` or later, for a text that begins at `offset` in
the given state after the character `previous`. -/
def resumptionFrom (start : Nat) (nesting : Nesting) (previous : Option Char)
    (offset : Nat) : List Char → Option Resumption
  | [] => none
  | c :: cs =>
      let goOn := fun next => resumptionFrom start next (some c) (offset + c.utf8Size) cs
      match nesting.quote with
      | some mark => if c == mark then goOn { nesting with quote := none } else goOn nesting
      | none =>
          if c == '\'' || c == '"' then goOn { nesting with quote := some c }
          else if c == '(' then goOn { nesting with depth := nesting.depth + 1 }
          else if c == ')' then goOn { nesting with depth := nesting.depth - 1 }
          else if start ≤ offset && !previous.any isWordPart then
            match connective? (c :: cs) with
            | some (size, rest) => some ⟨offset + size, nesting.depth, rest⟩
            | none => goOn nesting
          else goOn nesting

def resumption (text : List Char) (start : Nat) : Option Resumption :=
  resumptionFrom start {} none 0 text

end Cql.Filter
