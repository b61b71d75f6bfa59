import Cql.Compile.Action
import Cql.Grammar.Definition

/-!
# The words of a filter

The names of relations and functions stand in several tables: the grammar lists the words that it
takes for a relation, each family of relations is looked up in a table of its own, the functions are
listed with their arities, and PostgreSQL has its own names for them. The tables agree. What the
grammar takes for a relation is one, and a function that is known to a dialect has an arity, so that
no call goes unchecked.
-/

namespace Cql

open Cql.Sql Cql.Grammar

namespace Text

theorem lower_mem_of_sameWord {words : List String} {name word : String}
    (plain : ∀ word ∈ words, lower word = word) (among : word ∈ words)
    (same : sameWord name word = true) : lower name ∈ words := by
  rw [sameWord_iff.1 same, plain word among]
  exact among

end Text

/-! ## Relations -/

/-- The grammar and the table have the same names of relations. -/
theorem SpatialRelation.isSome_ofKeyword? {name : String} :
    (ofKeyword? name).isSome = true ↔ Text.lower name ∈ Pattern.spatialWords := by
  unfold ofKeyword?
  split <;> simp_all [Pattern.spatialWords]

theorem TemporalRelation.isSome_ofKeyword? {name : String} :
    (ofKeyword? name).isSome = true ↔ Text.lower name ∈ Pattern.temporalWords := by
  unfold ofKeyword?
  split <;> simp_all [Pattern.temporalWords]

theorem ArrayRelation.isSome_ofKeyword? {name : String} :
    (ofKeyword? name).isSome = true ↔ Text.lower name ∈ Pattern.arrayWords := by
  unfold ofKeyword?
  split <;> simp_all [Pattern.arrayWords]

/-! ## Functions -/

namespace Sql

theorem isSome_function? {name : String} :
    (function? name).isSome = true ↔ Text.lower name ∈ functions.map Prod.fst := by
  simp only [function?, List.find?_isSome, beq_iff_eq, List.mem_map]

theorem Dialect.isSome_sqlFunction? {dialect : Dialect} {name : String} :
    (dialect.sqlFunction? name).isSome = true ↔ Text.lower name ∈ functions.map Prod.fst := by
  cases dialect with
  | geoPackage => rw [sqlFunction?, Option.isSome_map, isSome_function?]
  | postgres =>
      rw [sqlFunction?]
      split <;> simp_all [functions]

/-- PostgreSQL has another name for one function only. -/
theorem Dialect.mem_of_sqlFunction? {dialect : Dialect} {name function : String}
    (known : dialect.sqlFunction? name = some function) :
    function ∈ "char_length" :: functions.map Prod.fst := by
  cases dialect with
  | geoPackage =>
      obtain ⟨entry, found, rfl⟩ := Option.map_eq_some_iff.1 known
      exact List.mem_cons_of_mem _ (List.mem_map_of_mem (List.mem_of_find?_eq_some found))
  | postgres =>
      rw [sqlFunction?] at known
      split at known <;> cases known <;> decide

end Sql

/-- A call is of a function that does not exist, or its arguments are counted: there is no function
without an arity. -/
theorem Setting.functionCall_cases (setting : Setting) (node : Node) :
    (arityOf? node.calledName = none ∧ setting.functionCall node
        = .refuse (.unknownFunction node.calledName setting.dialect.name)) ∨
      ∃ function arity, setting.dialect.sqlFunction? node.calledName = some function ∧
        arityOf? node.calledName = some arity ∧
        setting.functionCall node = if arity.admits node.argumentCount then
            .combine node.argumentCount fun operands =>
              .loose (Fragment.call function (operands.map setting.dialect.value))
          else .refuse (.argumentCount node.calledName arity.describe node.argumentCount) := by
  have tables : (setting.dialect.sqlFunction? node.calledName).isSome
      = (arityOf? node.calledName).isSome := by
    rw [Bool.eq_iff_iff, Dialect.isSome_sqlFunction?, arityOf?, Option.isSome_map,
      isSome_function?]
  unfold functionCall
  cases named : setting.dialect.sqlFunction? node.calledName with
  | none =>
      rw [named, Option.isSome_none, eq_comm, Option.isSome_eq_false_iff] at tables
      exact .inl ⟨Option.isNone_iff_eq_none.1 tables, by simp only [named]⟩
  | some function =>
      rw [named, Option.isSome_some, eq_comm, Option.isSome_iff_exists] at tables
      obtain ⟨arity, counted⟩ := tables
      refine .inr ⟨function, arity, rfl, counted, ?_⟩
      simp only [named, counted]

end Cql
