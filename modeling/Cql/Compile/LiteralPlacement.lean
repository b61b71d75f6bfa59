/-!
# Placement of literals

A number or a truth value reaches the SQL as a bound parameter or as part of its text. All other
literals are always bound.
-/

namespace Cql

inductive Placement where
  /-- As a bound parameter. -/
  | bound
  /-- As part of the text. -/
  | inline
  deriving DecidableEq, Repr

namespace Placement

def key : Placement → String
  | .bound => "bind"
  | .inline => "inline"

def ofKey? (key : String) : Option Placement :=
  [bound, inline].find? fun placement => placement.key == key

end Placement

/-- How numbers and truth values reach the SQL. The bounds of a box count as numbers. -/
structure LiteralPlacement where
  numbers : Placement := .bound
  truthValues : Placement := .bound
  deriving DecidableEq, Repr

namespace LiteralPlacement

end LiteralPlacement

inductive SettingValue where
  | null
  | flag (value : Bool)
  | number
  | text (value : String)
  | list (items : List SettingValue)
  | record (fields : List (String × SettingValue))
  deriving Inhabited

namespace SettingValue

def toPlacement? : SettingValue → Option Placement
  | .text key => Placement.ofKey? key
  | .record [(key, .null)] => Placement.ofKey? key
  | _ => none

def placementAt? (fields : List (String × SettingValue)) (key : String) : Option Placement :=
  match fields.find? fun field => field.1 == key with
  | none => some .bound
  | some field => field.2.toPlacement?

/-- The value as the placement of literals: a record, or a list with the placement of numbers and
then that of truth values. What is missing is the default, and further keys of a record are passed
over. -/
def toLiteralPlacement? : SettingValue → Option LiteralPlacement
  | .record fields => do
      let numbers ← placementAt? fields "numeric"
      let truthValues ← placementAt? fields "boolean"
      return ⟨numbers, truthValues⟩
  | .list [] => some {}
  | .list [numbers] => do
      return { numbers := ← numbers.toPlacement? }
  | .list [numbers, truthValues] => do
      return ⟨← numbers.toPlacement?, ← truthValues.toPlacement?⟩
  | _ => none

end SettingValue

end Cql
