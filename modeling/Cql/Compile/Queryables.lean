import Cql.Text.WhiteSpace

/-!
# Queryables

A filter may use the properties on a list of names only. A star on the list admits every property.
-/

namespace Cql

structure Queryables where
  names : List String
  deriving DecidableEq, Repr

namespace Queryables

def wildcard : String := "*"

def unrestricted : Queryables :=
  ⟨[wildcard]⟩

def admitsAll (queryables : Queryables) : Bool :=
  queryables.names.contains wildcard

/-- Whether a property may be used; case is significant. -/
def admits (queryables : Queryables) (property : String) : Bool :=
  queryables.admitsAll || queryables.names.contains property

def splitCommas : List Char → List (List Char)
  | [] => [[]]
  | c :: cs =>
      match splitCommas cs with
      | [] => [[c]]
      | item :: items => if c == ',' then [] :: item :: items else (c :: item) :: items

/-- The names in a list with commas between. White space around a name does not belong to it, and
an empty name is no name. -/
def ofList (list : String) : Queryables :=
  ⟨((splitCommas list.toList).map fun item => Text.trim (String.ofList item)).filter (· != "")⟩

end Queryables

end Cql
