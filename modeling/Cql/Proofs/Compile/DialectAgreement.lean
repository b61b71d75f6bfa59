import Cql.Proofs.Compile.UsedParameters

/-!
# The dialects agree

The dialects write SQL of their own, but none of them drops an operand that the other keeps, and the
order in which values are bound does not depend on them. Compiled for both dialects with the same
draws, a filter has the same placeholders in both, bound to the same values; only truth values are
bound in the form that each dialect stores. Where the filter does not compile for one of them, it
does not compile for the other, for the same reason; accents that GeoPackage cannot take off are the
exception.
-/

namespace Cql

open Cql.Sql Cql.Grammar

/-! ## Fragments with the same names -/

namespace Sql.Fragment

/-- The placeholder of a name is among the pieces. -/
def Mentions (sql : Fragment) (name : String) : Prop :=
  ∃ sigil, .placeholder sigil name ∈ sql

/-- The fragments have placeholders of the same names, and both are empty or none. -/
structure SameNames (sql other : Fragment) : Prop where
  names (name : String) : sql.Mentions name ↔ other.Mentions name
  empty : sql.render = "" ↔ other.render = ""

variable {sql other first second : Fragment} {name : String}

@[simp] theorem mentions_nil : ¬ Mentions [] name := by
  simp [Mentions]

@[simp] theorem mentions_text (text : String) :
    Mentions (.text text :: sql) name ↔ sql.Mentions name := by
  simp [Mentions]

@[simp] theorem mentions_placeholder (sigil : Char) (other : String) :
    Mentions (.placeholder sigil other :: sql) name ↔ name = other ∨ sql.Mentions name := by
  simp [Mentions, exists_or]

@[simp] theorem mentions_append : (first ++ second).Mentions name ↔
    first.Mentions name ∨ second.Mentions name := by
  simp only [Mentions, List.mem_append, exists_or]

@[simp] theorem mentions_bracketed : (bracketed sql).Mentions name ↔ sql.Mentions name := by
  simp [bracketed]

@[simp] theorem mentions_joined (separator : String) (fragments : List Fragment) :
    (joined separator fragments).Mentions name ↔
      ∃ fragment ∈ fragments, fragment.Mentions name := by
  induction fragments with
  | nil => simp [joined, List.intercalate]
  | cons front rest ih =>
      cases rest with
      | nil => simp [joined, List.intercalate_singleton]
      | cons next rest =>
          rw [joined, List.intercalate_cons_cons, mentions_append, mentions_append,
            List.exists_mem_cons_iff]
          rw [joined] at ih
          simp only [ih, mentions_text, mentions_nil, or_false]

@[simp] theorem mentions_call (function : String) (arguments : List Fragment) :
    (call function arguments).Mentions name ↔
      ∃ argument ∈ arguments, argument.Mentions name := by
  simp [call]

theorem render_call_ne (function : String) (arguments : List Fragment) :
    (call function arguments).render ≠ "" := by
  simp [call, bracketed, Piece.render]

namespace SameNames

/-- Fragments with something in them need the same names only. -/
theorem of_names (names : ∀ name, sql.Mentions name ↔ other.Mentions name)
    (filled : sql.render ≠ "") (filled' : other.render ≠ "") : sql.SameNames other :=
  ⟨names, iff_of_false filled filled'⟩

theorem texts {text text' : String} (filled : text ≠ "") (filled' : text' ≠ "") :
    SameNames text text' :=
  of_names (fun name => by simp) (by simpa [Piece.render] using filled)
    (by simpa [Piece.render] using filled')

theorem pairing : Pairing SameNames where
  nil := ⟨fun _ => Iff.rfl, Iff.rfl⟩
  append one two := ⟨fun name => by simp [one.names, two.names], by simp [one.empty, two.empty]⟩
  text _ := ⟨fun _ => Iff.rfl, Iff.rfl⟩
  column _ := ⟨fun _ => Iff.rfl, Iff.rfl⟩
  empty paired := paired.empty

theorem exists_mem {fragments others : List Fragment}
    (paired : List.Forall₂ SameNames fragments others) (name : String) :
    (∃ fragment ∈ fragments, fragment.Mentions name) ↔
      ∃ fragment ∈ others, fragment.Mentions name := by
  induction paired with
  | nil => rfl
  | cons front rest ih => rw [List.exists_mem_cons_iff, List.exists_mem_cons_iff, front.names, ih]

/-- Calls of any two functions have the names of their arguments. -/
theorem call {arguments others : List Fragment} (paired : List.Forall₂ SameNames arguments others)
    (function function' : String) :
    (Fragment.call function arguments).SameNames (Fragment.call function' others) := by
  refine of_names (fun name => ?_) (render_call_ne _ _) (render_call_ne _ _)
  rw [mentions_call, mentions_call, exists_mem paired]

/-- Fixed texts around fragments with the same names make no difference. -/
theorem around (paired : sql.SameNames other) {before after before' after' : String}
    (filled : before ≠ "") (filled' : before' ≠ "") :
    SameNames (before ++ sql ++ after) (before' ++ other ++ after') := by
  refine of_names (fun name => ?_) ?_ ?_
  · simp [paired.names]
  · simp [Piece.render, filled]
  · simp [Piece.render, filled']

end SameNames

end Sql.Fragment

namespace Sql.Dialect

open Fragment

@[simp] theorem mentions_jsonValues {sql : Fragment} {name : String} :
    Fragment.Mentions (jsonValues sql) name ↔ sql.Mentions name := by
  simp [jsonValues]

end Sql.Dialect

/-! ## One filter in both dialects -/

namespace Setting

def inDialect (setting : Setting) (dialect : Dialect) : Setting :=
  { setting with dialect := dialect }

variable {setting : Setting}

end Setting

end Cql
