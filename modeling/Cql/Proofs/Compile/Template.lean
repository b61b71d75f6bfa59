import Cql.Proofs.Compile.BoundLiteral
import Cql.Proofs.Compile.UsedParameters

/-!
# The template of a filter

The names of parameters are drawn at random, and that is all that chance decides. For every filter
there are a template, which is SQL with numbered slots, and the values of its literals from left to
right. Whatever names are drawn, the SQL is the template with the names in its slots, and the
parameters assign to the name in each slot the value of that number.
-/

namespace Cql

open Cql.Sql Cql.Grammar

/-! ## Templates -/

inductive TemplatePart where
  /-- Text that stands as it is. -/
  | text (sql : String)
  /-- A place for the placeholder of the value with the given number. -/
  | slot (number : Nat)
  deriving DecidableEq, Repr

abbrev Template := List TemplatePart

def Template.fill (sigil : Char) (names : List String) (template : Template) : String :=
  String.join (template.map fun part =>
    match part with
    | .text sql => sql
    | .slot number => String.singleton sigil ++ names.getD number "")

namespace Sql

def Piece.part (names : List String) : Piece → TemplatePart
  | .placeholder _ name => .slot (names.idxOf name)
  | piece => .text piece.render

def Fragment.template (names : List String) (sql : Fragment) : Template :=
  sql.map (Piece.part names)

variable {sigil : Char} {names others : List String} {sql other : Fragment}

theorem idxOf_of_getElem? {slot : Nat} {name : String} (distinct : names.Nodup)
    (here : names[slot]? = some name) : names.idxOf name = slot := by
  obtain ⟨bound, rfl⟩ := List.getElem?_eq_some_iff.1 here
  exact distinct.idxOf_getElem slot bound

theorem Fragment.fill_template (distinct : names.Nodup)
    (paired : sql.Paired (Piece.SameSlot sigil names others) other) :
    (sql.template names).fill sigil others = other.render := by
  induction paired with
  | nil => simp [Fragment.template, Template.fill]
  | @cons piece piece' sql other same rest ih =>
      have front : (match piece.part names with
          | .text sql => sql
          | .slot number => String.singleton sigil ++ others.getD number "") = piece'.render := by
        cases same with
        | text inert => rfl
        | column name => rfl
        | placeholder here there =>
            simp only [Piece.part, idxOf_of_getElem? distinct here, Piece.render,
              List.getD_eq_getElem?_getD, there, Option.getD_some]
      rw [Fragment.render_cons, ← ih, ← front]
      simp [Fragment.template, Template.fill]

theorem Fragment.mem_of_slot (distinct : names.Nodup)
    (paired : sql.Paired (Piece.SameSlot sigil names others) other) {number : Nat}
    (slot : .slot number ∈ sql.template names) :
    ∃ name, others[number]? = some name ∧ .placeholder sigil name ∈ other := by
  induction paired with
  | nil => cases slot
  | @cons piece piece' sql other same rest ih =>
      rcases List.mem_cons.1 slot with here | later
      · cases same with
        | text inert => cases here
        | column name => cases here
        | placeholder found there =>
            rw [Piece.part, idxOf_of_getElem? distinct found] at here
            cases here
            exact ⟨_, there, List.mem_cons_self ..⟩
      · obtain ⟨name, found, among⟩ := ih later
        exact ⟨name, found, List.mem_cons_of_mem _ among⟩

end Sql

/-! ## Compiling a filter -/

namespace Setting

variable {setting : Setting}

/-- However the names are drawn, a filter compiles to SQL that pairs with a translation of it, and
binds the values of its literals under names that differ from each other. -/
theorem compile_of_draws {filter : String} {tree : Node} (accepted : Filter.parse filter = .ok tree)
    {sql : Fragment} {bindings : Bindings}
    (done : setting.translate tree {} = .ok ([.closed sql], bindings)) (draws : Draws) :
    ∃ (other : Fragment) (drawn : Bindings), compile { setting with draws := draws } filter = .ok
        { sql := other.render
          params := Compilation.usedParams setting.dialect.sigil other.render drawn.params } ∧
      sql.Paired (Piece.SameSlot setting.dialect.sigil bindings.names drawn.names) other ∧
      ParameterName.Distinct drawn.names ∧
      drawn.values = (setting.boundLiterals tree).map setting.boundValue := by
  have formed := Filter.formed_of_parse accepted
  have inStep : InStep setting.dialect.sigil {} {} (setting.translate tree {})
      (translate { setting with draws := draws } tree {}) := translate_inStep formed .start
  rw [done] at inStep
  cases redone : translate { setting with draws := draws } tree {} with
  | error reason =>
      rw [redone] at inStep
      cases inStep
  | ok pair =>
      obtain ⟨others, drawn⟩ := pair
      rw [redone] at inStep
      cases inStep with
      | ok paired twin longer longer' =>
          obtain ⟨other, rfl, compiled⟩ := compile_ok accepted redone
          refine ⟨other, drawn, compiled, ?_, twin.distinctToo, values_of_translate formed redone⟩
          cases List.forall₂_cons.1 paired |>.1 with
          | expr same chained => exact same

/-- For every filter there are a template and the values of its literals, in the order of the text,
such that names drawn at random only fill the slots of the template: whatever is drawn, the filter
goes wrong for the same reason, or its SQL is the template with names that differ from each other in
its slots, and the parameters assign to the name in a slot the value with its number. -/
theorem compile_eq_fill (setting : Setting) {filter : String} {tree : Node}
    (accepted : Filter.parse filter = .ok tree) :
    Node.Row 0 filter.toList (setting.boundLiterals tree) ∧
    ((∃ reason, ∀ draws, compile { setting with draws := draws } filter = .error reason) ∨
      ∃ template : Template, ∀ draws, ∃ (names : List String) (result : SqlFilter),
        compile { setting with draws := draws } filter = .ok result ∧
        names.length = (setting.boundLiterals tree).length ∧
        names.Nodup ∧ (∀ name ∈ names, ParameterName.IsName name) ∧
        result.sql = template.fill setting.dialect.sigil names ∧
        (result.params.map Prod.fst).Nodup ∧
        ∀ number, .slot number ∈ template → ∃ name value,
          names[number]? = some name ∧
          ((setting.boundLiterals tree).map setting.boundValue)[number]? = some value ∧
          (name, value) ∈ result.params) := by
  have formed := Filter.formed_of_parse accepted
  refine ⟨literals_row_of_parse accepted, ?_⟩
  cases done : setting.translate tree {} with
  | error reason =>
      refine .inl ⟨reason, fun draws => compile_error accepted ?_⟩
      have inStep : InStep setting.dialect.sigil {} {} (setting.translate tree {})
          (translate { setting with draws := draws } tree {}) := translate_inStep formed .start
      rw [done] at inStep
      generalize translate { setting with draws := draws } tree {} = other at inStep
      cases inStep with
      | error reason => rfl
  | ok pair =>
      obtain ⟨operands, bindings⟩ := pair
      obtain ⟨sql, rfl, _⟩ := compile_ok accepted done
      have distinct := (settled_of_translate formed done).2.nodup
      refine .inr ⟨sql.template bindings.names, fun draws => ?_⟩
      obtain ⟨other, drawn, compiled, paired, different, values⟩ :=
        compile_of_draws accepted done draws
      have form : ∀ name ∈ drawn.names, ParameterName.IsName name := different.isName
      have length : drawn.names.length = (setting.boundLiterals tree).length := by
        rw [names_length, values, List.length_map]
      refine ⟨drawn.names, _, compiled, length, different.nodup, form,
        (Fragment.fill_template distinct paired).symm, ?_, fun number slot => ?_⟩
      · exact different.nodup.sublist (List.filter_sublist.map Prod.fst)
      · obtain ⟨name, named, placed⟩ := Fragment.mem_of_slot distinct paired slot
        obtain ⟨value, valued, bound⟩ := mem_params_of_getElem? named
        exact ⟨name, value, named, values ▸ valued,
          Compilation.mem_usedParams.2 ⟨bound, Fragment.infix_render placed⟩⟩

/-- Two equal literals have slots of their own, whatever is drawn for them, and the literal of a
condition that is settled has a number without a slot. -/
theorem compile_eq_fill_equal :
    ∃ tree, Filter.parse "T_AFTER(t, INTERVAL('2020-01-01', '..')) OR a IN (7, 7)" = .ok tree ∧
      ∃ template : Template, ∀ draws, ∃ (names : List String) (result : SqlFilter),
        compile { dialect := .geoPackage, draws := draws }
          "T_AFTER(t, INTERVAL('2020-01-01', '..')) OR a IN (7, 7)" = .ok result ∧
        names.Nodup ∧ names.length = 3 ∧ result.sql = template.fill ':' names := by
  have counted :
      (Filter.parse "T_AFTER(t, INTERVAL('2020-01-01', '..')) OR a IN (7, 7)").toOption.map
        (fun tree => (boundLiterals { dialect := .geoPackage } tree).length) = some 3 := by
    decide +kernel
  have evaluated : (compile { dialect := .geoPackage }
      "T_AFTER(t, INTERVAL('2020-01-01', '..')) OR a IN (7, 7)").isOk = true := by
    decide +kernel
  cases accepted : Filter.parse "T_AFTER(t, INTERVAL('2020-01-01', '..')) OR a IN (7, 7)" with
  | error errors => rw [accepted] at counted; cases counted
  | ok tree =>
      rw [accepted] at counted
      rcases (compile_eq_fill { dialect := .geoPackage } accepted).2 with
        ⟨reason, wrong⟩ | ⟨template, filled⟩
      · rw [wrong Draws.sequential] at evaluated
        cases evaluated
      · refine ⟨tree, rfl, template, fun draws => ?_⟩
        obtain ⟨names, result, compiled, length, distinct, _, sql, _⟩ := filled draws
        exact ⟨names, result, compiled, distinct, length.trans (Option.some.inj counted), sql⟩

end Setting

end Cql
