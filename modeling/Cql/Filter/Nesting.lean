/-!
# Quotes and brackets

A single pass over a filter that tracks whether a place is inside a quoted text or identifier and
how many round brackets are open there. It needs no grammar and works on malformed filters too.
Brackets inside quotes do not count, and a closing bracket with none open is passed over.
-/

namespace Cql.Filter

/-- The quotation mark that is open, if any, and the number of open brackets. -/
structure Nesting where
  quote : Option Char := none
  depth : Nat := 0
  deriving DecidableEq, Repr

/-- The byte offset of the first bracket that nests deeper than `limit`, for a text that begins at
`offset` in the given state. -/
def overdeepFrom (limit : Nat) (nesting : Nesting) (offset : Nat) : List Char → Option Nat
  | [] => none
  | c :: cs =>
      let goOn := fun next => overdeepFrom limit next (offset + c.utf8Size) cs
      match nesting.quote, c with
      | some mark, c => if c == mark then goOn { nesting with quote := none } else goOn nesting
      | none, '\'' | none, '"' => goOn { nesting with quote := some c }
      | none, '(' =>
          let depth := nesting.depth + 1
          if limit < depth then some offset else goOn { nesting with depth := depth }
      | none, ')' => goOn { nesting with depth := nesting.depth - 1 }
      | none, _ => goOn nesting

def firstOverdeep (text : List Char) (limit : Nat) : Option Nat :=
  overdeepFrom limit {} 0 text

end Cql.Filter
