import Cql.Filter.Resumption
import Cql.Filter.SyntaxError
import Cql.Grammar.Matching

/-!
# Reading a filter

A filter is read into its syntax tree. A filter with mistakes gives the list of them instead: after
each mistake the reading resumes behind the next connective, so that independent mistakes are all
found in one go.
-/

namespace Cql.Filter

def nestingLimit : Nat := 32

def errorLimit : Nat := 32

/-- The first error behind byte `offset`, if the reading can resume there and finds one. The
brackets that are open at the connective are opened again in front of the rest, so that their
closing brackets still have a partner. -/
def errorBehind? (text : List Char) (offset : Nat) : Option SyntaxError :=
  match resumption text offset with
  | none => none
  | some place =>
      match Grammar.parse .cqlFilter (List.replicate place.depth '(' ++ place.rest) with
      | .ok _ => none
      | .error frontier =>
          some (failureAt text (place.offset + (frontier.offset - place.depth)) frontier.rules)

def errorsBehind (text : List Char) : Nat → Nat → List SyntaxError
  | 0, _ => []
  | remaining + 1, offset =>
      match errorBehind? text offset with
      | none => []
      | some error => error :: errorsBehind text remaining error.offset

def parseChars (text : List Char) : Except (List SyntaxError) Node :=
  match firstOverdeep text nestingLimit with
  | some offset =>
      .error [SyntaxError.ofOffset text offset
        s!"maximum nesting depth of {nestingLimit} exceeded"]
  | none =>
      match Grammar.parse .cqlFilter text with
      | .ok (tree :: _) => .ok tree
      | .ok [] => .error [failureAt text 0 []]
      | .error frontier =>
          .error (failureAt text frontier.offset frontier.rules
            :: errorsBehind text (errorLimit - 1) frontier.offset)

def parse (filter : String) : Except (List SyntaxError) Node :=
  parseChars filter.toList

end Cql.Filter
