import Cql.Proofs.Compile.FreshName
import Cql.Proofs.Compile.Translation

/-!
# Properties that actions keep

What holds of every operand of a filter is shown rule by rule: the action of a rule makes operands
with the property out of operands with the property, and so the translation of a node leaves none
without it.
-/

namespace Cql

open Cql.Sql

variable {placed : Fragment → Prop} {kept : Operand → Prop}

namespace Action

/-- The action makes operands with a property out of operands with the property, and out of
placeholders. -/
def Keeps (placed : Fragment → Prop) (kept : Operand → Prop) : Action → Prop
  | .keep => True
  | .push operand => kept operand
  | .bind _ wrap => ∀ placeholder, placed placeholder → kept (wrap placeholder)
  | .combine _ result =>
      ∀ operands, (∀ operand ∈ operands, kept operand) → kept (result operands)
  | .refuse _ => True

theorem combine1_keeps {result : Operand → Operand} (blank : kept .blank)
    (one : ∀ operand, kept operand → kept (result operand)) :
    (combine1 result).Keeps placed kept := by
  intro operands each
  dsimp only
  split
  · exact one _ (each _ (List.mem_singleton_self _))
  · exact blank

theorem combine2_keeps {result : Operand → Operand → Operand} (blank : kept .blank)
    (both : ∀ first second, kept first → kept second → kept (result first second)) :
    (combine2 result).Keeps placed kept := by
  intro operands each
  dsimp only
  split
  · simp only [List.forall_mem_cons] at each
    exact both _ _ each.1 each.2.1
  · exact blank

theorem combine4_keeps {result : Operand → Operand → Operand → Operand → Operand}
    (blank : kept .blank)
    (four : ∀ first second third fourth, kept first → kept second → kept third → kept fourth →
      kept (result first second third fourth)) :
    (combine4 result).Keeps placed kept := by
  intro operands each
  dsimp only
  split
  · simp only [List.forall_mem_cons] at each
    exact four _ _ _ _ each.1 each.2.1 each.2.2.1 each.2.2.2.1
  · exact blank

theorem keeps_ite {condition : Prop} [Decidable condition] {one other : Action}
    (first : one.Keeps placed kept) (second : other.Keeps placed kept) :
    (if condition then one else other).Keeps placed kept := by
  split
  · exact first
  · exact second

end Action

namespace Setting

variable {setting : Setting}

theorem assemble_keeps {action : Action} {parts operands : List Operand} {before after : Bindings}
    (keeps : action.Keeps placed kept)
    (named : ∀ index, placed [.placeholder setting.dialect.sigil (ParameterName.ofIndex index)])
    (each : ∀ operand ∈ parts, kept operand)
    (done : setting.assemble action parts before = .ok (operands, after)) :
    ∀ operand ∈ operands, kept operand := by
  cases action with
  | keep =>
      cases done
      exact each
  | push operand =>
      cases done
      exact List.forall_mem_singleton.2 keeps
  | bind value wrap =>
      obtain ⟨_, rfl, bound⟩ := assemble_bind_ok done
      obtain ⟨name, drawn, found, rfl, _⟩ := Bindings.fresh_of_bind_ok bound
      obtain ⟨_, index, _, rfl⟩ := ParameterName.free_of_fresh found
      exact List.forall_mem_singleton.2 (keeps _ (named index))
  | combine count result =>
      cases done
      exact List.forall_mem_singleton.2 (keeps parts each)
  | refuse reason => cases done

theorem translate_keeps {node : Node}
    (keeps : (setting.action false node).Keeps placed kept)
    (named : ∀ index, placed [.placeholder setting.dialect.sigil (ParameterName.ofIndex index)])
    (inner : ∀ child ∈ node.children, ∀ {operands : List Operand} {before after : Bindings},
      setting.translate child before = .ok (operands, after) →
        ∀ operand ∈ operands, kept operand)
    {operands : List Operand} {before after : Bindings}
    (done : setting.translate node before = .ok (operands, after)) :
    ∀ operand ∈ operands, kept operand := by
  by_cases collection : node.rule = .geometryCollection
  · rw [setting.translate_collection before collection] at done
    exact assemble_keeps keeps named (List.forall_mem_nil _) done
  · obtain ⟨parts, mid, all, put⟩ := (translate_ok collection).1 done
    refine assemble_keeps keeps named (fun operand among => ?_) put
    obtain ⟨child, below, own, _, _, one, member⟩ := exists_of_mem_translateAll all among
    exact inner child below one operand member

end Setting

end Cql
