import Mathlib.Tactic.Order
import Mathlib.Tactic.Tauto
import Cql.Proofs.Temporal.Folding

/-!
# The algebra of intervals

Thirteen of the relations are basic: two periods that are longer than an instant stand in exactly
one of them, which is found by comparing their bounds. The other two say whether the periods have a
point in common. Every relation has a converse, in which the second period stands to the first.
-/

namespace Cql

namespace TemporalRelation

def basic : List TemporalRelation :=
  [.before, .after, .meets, .metBy, .overlaps, .overlappedBy, .starts, .startedBy, .during,
   .contains, .finishes, .finishedBy, .equals]

def converse : TemporalRelation → TemporalRelation
  | .after => .before
  | .before => .after
  | .contains => .during
  | .during => .contains
  | .finishedBy => .finishes
  | .finishes => .finishedBy
  | .meets => .metBy
  | .metBy => .meets
  | .overlappedBy => .overlaps
  | .overlaps => .overlappedBy
  | .startedBy => .starts
  | .starts => .startedBy
  | .disjoint => .disjoint
  | .equals => .equals
  | .intersects => .intersects

/-! ## Bounds in a linear order -/

variable {α : Type*} [LinearOrder α] {s₁ e₁ s₂ e₂ : α}

/-- How the bounds of two periods compare that stand in a basic relation: the starts, the ends, the
first end with the second start, and the first start with the second end. -/
def signature : TemporalRelation → List Ordering
  | .before => [.lt, .lt, .lt, .lt]
  | .meets => [.lt, .lt, .eq, .lt]
  | .overlaps => [.lt, .lt, .gt, .lt]
  | .finishedBy => [.lt, .eq, .gt, .lt]
  | .contains => [.lt, .gt, .gt, .lt]
  | .starts => [.eq, .lt, .gt, .lt]
  | .equals => [.eq, .eq, .gt, .lt]
  | .startedBy => [.eq, .gt, .gt, .lt]
  | .during => [.gt, .lt, .gt, .lt]
  | .finishes => [.gt, .eq, .gt, .lt]
  | .overlappedBy => [.gt, .gt, .gt, .lt]
  | .metBy => [.gt, .gt, .gt, .eq]
  | .after => [.gt, .gt, .gt, .gt]
  | .disjoint | .intersects => []

theorem signature_injective : ∀ relation ∈ basic, ∀ other ∈ basic,
    relation.signature = other.signature → relation = other := by
  decide

/-- The row of a basic relation settles all four comparisons of bounds. -/
theorem signature_of_row (proper : s₁ < e₁) (proper' : s₂ < e₂) {relation : TemporalRelation}
    (kind : relation ∈ basic) (row : relation.Row s₁ e₁ s₂ e₂) :
    relation.signature = [compare s₁ s₂, compare e₁ e₂, compare e₁ s₂, compare s₁ e₂] := by
  cases relation with
  | disjoint | intersects => exact absurd kind (by decide)
  | _ =>
      simp only [Row] at row
      simp only [signature, List.cons.injEq, and_true, eq_comm (b := compare _ _),
        compare_lt_iff_lt, compare_eq_iff_eq, compare_gt_iff_gt]
      refine ⟨?_, ?_, ?_, ?_⟩ <;> order

theorem exists_row (s₁ e₁ s₂ e₂ : α) : ∃ relation ∈ basic, relation.Row s₁ e₁ s₂ e₂ := by
  rcases lt_trichotomy s₁ s₂ with starts | starts | starts
  · rcases lt_trichotomy e₁ e₂ with ends | ends | ends
    · rcases lt_trichotomy e₁ s₂ with apart | meets | inside
      · exact ⟨.before, by decide, apart⟩
      · exact ⟨.meets, by decide, meets⟩
      · exact ⟨.overlaps, by decide, starts, inside, ends⟩
    · exact ⟨.finishedBy, by decide, starts, ends⟩
    · exact ⟨.contains, by decide, starts, ends⟩
  · rcases lt_trichotomy e₁ e₂ with ends | ends | ends
    · exact ⟨.starts, by decide, starts, ends⟩
    · exact ⟨.equals, by decide, starts, ends⟩
    · exact ⟨.startedBy, by decide, starts, ends⟩
  · rcases lt_trichotomy e₁ e₂ with ends | ends | ends
    · exact ⟨.during, by decide, starts, ends⟩
    · exact ⟨.finishes, by decide, starts, ends⟩
    · rcases lt_trichotomy s₁ e₂ with inside | met | apart
      · exact ⟨.overlappedBy, by decide, starts, inside, ends⟩
      · exact ⟨.metBy, by decide, met⟩
      · exact ⟨.after, by decide, apart⟩

/-- Two periods longer than an instant stand in one basic relation only. -/
theorem eq_of_row (proper : s₁ < e₁) (proper' : s₂ < e₂) {relation other : TemporalRelation}
    (kind : relation ∈ basic) (kind' : other ∈ basic) (row : relation.Row s₁ e₁ s₂ e₂)
    (row' : other.Row s₁ e₁ s₂ e₂) : relation = other :=
  signature_injective relation kind other kind'
    ((signature_of_row proper proper' kind row).trans
      (signature_of_row proper proper' kind' row').symm)

/-- A period stands in a relation to another exactly if the other stands in the converse to it. -/
theorem row_converse (relation : TemporalRelation) :
    relation.converse.Row s₂ e₂ s₁ e₁ ↔ relation.Row s₁ e₁ s₂ e₂ := by
  cases relation <;> simp only [converse, Row, gt_iff_lt, ge_iff_le, eq_comm (a := s₂),
    eq_comm (a := e₂)] <;> tauto

theorem row_intersects : intersects.Row s₁ e₁ s₂ e₂ ↔
    ¬before.Row s₁ e₁ s₂ e₂ ∧ ¬after.Row s₁ e₁ s₂ e₂ := by
  simp only [Row, not_lt, gt_iff_lt, ge_iff_le]
  exact and_comm

theorem row_disjoint : disjoint.Row s₁ e₁ s₂ e₂ ↔
    before.Row s₁ e₁ s₂ e₂ ∨ after.Row s₁ e₁ s₂ e₂ := by
  simp only [Row, gt_iff_lt, ge_iff_le, not_and_or, not_le]
  exact or_comm

end TemporalRelation

namespace Temporal

open Cql.Sql TemporalRelation

/-- The period is longer than an instant. -/
def Period.IsProper {α : Type*} [LinearOrder α] (moment : String → α) (period : Period) : Prop :=
  period.first.place moment < period.last.place moment

variable {α : Type*} [LinearOrder α]

/-- The conditions of the relations, read as sentences about the bounds of two periods in either
order, form the algebra of intervals: of the basic relations exactly one holds between two proper
periods, and these intersect unless one of them is before the other. For all periods the condition
of a relation holds exactly if that of its converse holds of the periods in the other order. -/
theorem relate_interval_algebra (a b : Period) :
    ∃ forth back : TemporalRelation → Sentence,
      (∀ relation, (forth relation).IsReading (a.points ++ b.points)
          (relate relation a b).render.render ∧
        (back relation).IsReading (b.points ++ a.points) (relate relation b a).render.render) ∧
      ∀ moment : String → α,
        (a.IsProper moment → b.IsProper moment →
          (∃! relation, relation ∈ basic ∧ (forth relation).Holds moment) ∧
          ((forth .intersects).Holds moment ↔
            ¬(forth .before).Holds moment ∧ ¬(forth .after).Holds moment) ∧
          ((forth .disjoint).Holds moment ↔
            (forth .before).Holds moment ∨ (forth .after).Holds moment)) ∧
        ∀ relation, (forth relation).Holds moment ↔ (back relation.converse).Holds moment := by
  refine ⟨fun relation => (relate relation a b).sentence,
    fun relation => (relate relation b a).sentence,
    fun relation => ⟨isReading_relate relation a b, isReading_relate relation b a⟩,
    fun moment => ?_⟩
  simp only [sentence_relate_iff]
  refine ⟨fun proper proper' => ⟨?_, row_intersects, row_disjoint⟩,
    fun relation => relation.row_converse.symm⟩
  obtain ⟨relation, kind, row⟩ := exists_row (a.first.place moment) (a.last.place moment)
    (b.first.place moment) (b.last.place moment)
  exact ⟨relation, ⟨kind, row⟩, fun other found =>
    eq_of_row proper proper' found.1 kind found.2 row⟩

/-- A period that begins at 2 and has no end, and one from 1 to 3 by which it is overlapped. -/
theorem relate_interval_algebra_openEnd :
    let moment : String → ℕ := String.length
    let a : Period := ⟨.value "mm", .future⟩
    let b : Period := ⟨.value "l", .value "rrr"⟩
    a.IsProper moment ∧ b.IsProper moment ∧
      ∃ forth back : TemporalRelation → Sentence,
        (forth .overlappedBy).text = "(mm > l AND mm < rrr)" ∧
        (back .overlaps).text = "(l < mm AND rrr > mm)" ∧
        (∃! relation, relation ∈ basic ∧ (forth relation).Holds moment) ∧
        ((forth .overlappedBy).Holds moment ↔ (back .overlaps).Holds moment) := by
  intro moment a b
  have proper : a.IsProper moment := WithBot.coe_lt_coe.2 (WithTop.coe_lt_top _)
  have proper' : b.IsProper moment :=
    WithBot.coe_lt_coe.2 (WithTop.coe_lt_coe.2 (show 1 < 3 by decide))
  obtain ⟨forth, back, reading, algebra⟩ := @relate_interval_algebra ℕ _ a b
  obtain ⟨one, converse⟩ := algebra moment
  refine ⟨proper, proper', forth, back, ?_, ?_, (one proper proper').1, converse .overlappedBy⟩
  · exact (reading .overlappedBy).1.written.trans (by decide)
  · exact (reading .overlaps).2.written.trans (by decide)

end Temporal

end Cql
