import Mathlib.Order.WithBot
import Cql.Proofs.Temporal.Sentence
import Cql.Temporal.Condition

/-!
# Folding comparisons with infinity

The condition of a relation between periods is a sentence about their bounds, which has a truth
value once the points in time have a place in a linear order. The open ends of periods lie outside
the order, one before and one after everything in it. Comparisons with them are settled when the
condition is made, and what is left to SQL has the truth value that the table of the relations gives
in the extended order.
-/

namespace Cql

/-- When a period from `s₁` to `e₁` stands in the relation to one from `s₂` to `e₂`. -/
def TemporalRelation.Row {α : Type*} [LinearOrder α] (s₁ e₁ s₂ e₂ : α) : TemporalRelation → Prop
  | .after => s₁ > e₂
  | .before => e₁ < s₂
  | .contains => s₁ < s₂ ∧ e₁ > e₂
  | .disjoint => ¬(s₁ ≤ e₂ ∧ e₁ ≥ s₂)
  | .during => s₁ > s₂ ∧ e₁ < e₂
  | .equals => s₁ = s₂ ∧ e₁ = e₂
  | .finishedBy => s₁ < s₂ ∧ e₁ = e₂
  | .finishes => s₁ > s₂ ∧ e₁ = e₂
  | .intersects => s₁ ≤ e₂ ∧ e₁ ≥ s₂
  | .meets => e₁ = s₂
  | .metBy => s₁ = e₂
  | .overlappedBy => s₁ > s₂ ∧ s₁ < e₂ ∧ e₁ > e₂
  | .overlaps => s₁ < s₂ ∧ e₁ > s₂ ∧ e₁ < e₂
  | .startedBy => s₁ = s₂ ∧ e₁ > e₂
  | .starts => s₁ = s₂ ∧ e₁ < e₂

namespace Temporal

open Cql.Sql

variable {α : Type*} [LinearOrder α]

/-! ## Truth values -/

/-- What the comparison says of two elements of an order. -/
def Comparator.Relates : Comparator → α → α → Prop
  | .lt, x, y => x < y
  | .le, x, y => x ≤ y
  | .eq, x, y => x = y
  | .ge, x, y => x ≥ y
  | .gt, x, y => x > y

def Comparison.link (comparison : Comparison) : Link :=
  ⟨comparison.left.render, comparison.comparator.symbol, comparison.right.render⟩

/-- The conjunction holds: none of its comparisons is known to fail, and all that are left hold. -/
def Conjunction.Holds (moment : String → α) : Conjunction → Prop
  | .never => False
  | .every comparisons => ∀ comparison ∈ comparisons, comparison.link.Holds moment

/-- The place of a bound in the order with one element more at either end. -/
def Endpoint.place (moment : String → α) : Endpoint → WithBot (WithTop α)
  | .past => ⊥
  | .value sql => ((moment sql.render : WithTop α) : WithBot (WithTop α))
  | .future => ⊤

def Test.Holds (moment : String → α) (test : Test) : Prop :=
  test.comparator.Relates (test.left.place moment) (test.right.place moment)

def Period.points (period : Period) : List String :=
  [period.first, period.last].filterMap fun
    | .value sql => some sql.render
    | _ => none

variable (moment : String → α)

/-! ## One test -/

theorem Comparator.relates_iff_holds (comparator : Comparator) (x y : α) :
    comparator.Relates x y ↔ comparator.holds (compare x y) = true := by
  rcases lt_trichotomy x y with less | rfl | more
  · rw [compare_lt_iff_lt.2 less]
    cases comparator <;> simp [Relates, holds, less, less.le, less.ne, less.not_ge, less.not_gt]
  · rw [compare_eq_iff_eq.2 rfl]
    cases comparator <;> simp [Relates, holds]
  · rw [compare_gt_iff_gt.2 more]
    cases comparator <;> simp [Relates, holds, more, more.le, more.ne', more.not_ge, more.not_gt]

theorem compare_place {left right : Endpoint}
    (infinite : ∀ sql sql', left = .value sql → right ≠ .value sql') :
    compare (left.place moment) (right.place moment) = compare left.side right.side := by
  cases left with
  | past =>
      cases right with
      | past => exact compare_eq_iff_eq.2 rfl
      | value sql => exact compare_lt_iff_lt.2 (WithBot.bot_lt_coe _)
      | future => exact compare_lt_iff_lt.2 bot_lt_top
  | value sql =>
      cases right with
      | past => exact compare_gt_iff_gt.2 (WithBot.bot_lt_coe _)
      | value sql' => exact absurd rfl (infinite sql sql' rfl)
      | future => exact compare_lt_iff_lt.2 (WithBot.coe_lt_coe.2 (WithTop.coe_lt_top _))
  | future =>
      cases right with
      | past => exact compare_gt_iff_gt.2 bot_lt_top
      | value sql => exact compare_gt_iff_gt.2 (WithBot.coe_lt_coe.2 (WithTop.coe_lt_top _))
      | future => exact compare_eq_iff_eq.2 rfl

theorem Comparison.link_holds_iff (comparison : Comparison) :
    comparison.link.Holds moment ↔ comparison.comparator.Relates
      (moment comparison.left.render) (moment comparison.right.render) := by
  obtain ⟨left, comparator, right⟩ := comparison
  cases comparator <;> rfl

/-- A test is settled rightly, or left to SQL. -/
theorem Test.holds_toConjunction (test : Test) :
    test.toConjunction.Holds moment ↔ test.Holds moment := by
  obtain ⟨left, comparator, right⟩ := test
  by_cases finite : ∃ sql sql', left = .value sql ∧ right = .value sql'
  · obtain ⟨sql, sql', rfl, rfl⟩ := finite
    simp only [toConjunction, Conjunction.Holds, List.forall_mem_singleton,
      Comparison.link_holds_iff, Test.Holds, Endpoint.place]
    cases comparator <;> simp [Comparator.Relates]
  · have infinite : ∀ sql sql', left = .value sql → right ≠ .value sql' :=
      fun sql sql' one two => finite ⟨sql, sql', one, two⟩
    have settled : Test.toConjunction ⟨left, comparator, right⟩ =
        if comparator.holds (compare left.side right.side) then .every [] else .never := by
      rw [toConjunction.eq_def]
      split
      · next one two => exact absurd two (infinite _ _ one)
      · rfl
    rw [settled, Test.Holds, Comparator.relates_iff_holds, compare_place moment infinite]
    split <;> simp_all [Conjunction.Holds]

/-! ## Several tests -/

theorem Conjunction.holds_and (first second : Conjunction) :
    (first.and second).Holds moment ↔ first.Holds moment ∧ second.Holds moment := by
  cases first with
  | never => simp [Conjunction.and, Holds]
  | every comparisons =>
      cases second with
      | never => simp [Conjunction.and, Holds]
      | every comparisons' => simp [Conjunction.and, Holds, or_imp, forall_and]

/-- Tests that are settled one by one hold together as they do in the extended order. -/
theorem Conjunction.holds_all (tests : List Test) :
    (Conjunction.all tests).Holds moment ↔ ∀ test ∈ tests, test.Holds moment := by
  induction tests with
  | nil => simp [all, Holds]
  | cons test tests ih =>
      have step : Conjunction.all (test :: tests) = test.toConjunction.and (.all tests) := rfl
      rw [step, holds_and, Test.holds_toConjunction, ih, List.forall_mem_cons]

/-! ## The sentence of a condition -/

namespace Condition

def sentence (condition : Condition) : Sentence :=
  match condition.tests with
  | .never => if condition.negated then .always else .never
  | .every [] => if condition.negated then .never else .always
  | .every (first :: others) =>
      if condition.negated then .notTogether first.link (others.map Comparison.link)
      else .together first.link (others.map Comparison.link)

theorem render_joined (first : Comparison) (others : List Comparison) :
    (Fragment.joined " AND " ((first :: others).map Comparison.render)).render
      = Sentence.linked first.link (others.map Comparison.link) := by
  have each (comparison : Comparison) : comparison.render.render = comparison.link.text := by
    simp [Comparison.render, Comparison.link, Link.text, Piece.render, String.append_assoc]
  rw [Fragment.render_joined, Sentence.linked, List.map_map, ← List.map_cons, List.map_map]
  exact congrArg _ (List.map_congr_left fun comparison _ => each comparison)

theorem text_sentence (condition : Condition) :
    condition.sentence.text = condition.render.render := by
  obtain ⟨negated, tests⟩ := condition
  cases tests with
  | never => cases negated <;> rfl
  | every comparisons =>
      cases comparisons with
      | nil => cases negated <;> rfl
      | cons first others =>
          have inner := render_joined first others
          cases negated <;>
            simp_all [sentence, Sentence.text, render, settled?, conjunction, Fragment.bracketed,
              Piece.render, String.append_assoc]

theorem sentence_holds_iff (condition : Condition) :
    condition.sentence.Holds moment ↔
      if condition.negated then ¬condition.tests.Holds moment
      else condition.tests.Holds moment := by
  obtain ⟨negated, tests⟩ := condition
  cases tests with
  | never => cases negated <;> simp [sentence, Sentence.Holds, Conjunction.Holds]
  | every comparisons =>
      cases comparisons with
      | nil => cases negated <;> simp [sentence, Sentence.Holds, Conjunction.Holds]
      | cons first others => cases negated <;> simp [sentence, Sentence.Holds, Conjunction.Holds]

end Condition

/-! ## Relations between periods -/

/-- Nothing is lost by folding: the sentence of a relation holds as its tests do in the extended
order. -/
theorem holds_relate (relation : TemporalRelation) (a b : Period) :
    (relate relation a b).sentence.Holds moment ↔
      if relation = .disjoint then ¬∀ test ∈ relationTests relation a b, test.Holds moment
      else ∀ test ∈ relationTests relation a b, test.Holds moment := by
  rw [relate, Condition.sentence_holds_iff, Conjunction.holds_all]
  simp only [beq_iff_eq]

theorem relationTests_iff_row (relation : TemporalRelation) (a b : Period) :
    (if relation = .disjoint then ¬∀ test ∈ relationTests relation a b, test.Holds moment
      else ∀ test ∈ relationTests relation a b, test.Holds moment) ↔
      relation.Row (a.first.place moment) (a.last.place moment) (b.first.place moment)
        (b.last.place moment) := by
  cases relation <;>
    simp [relationTests, Test.Holds, Comparator.Relates, TemporalRelation.Row]

theorem sentence_relate_iff (relation : TemporalRelation) (a b : Period) :
    (relate relation a b).sentence.Holds moment ↔
      relation.Row (a.first.place moment) (a.last.place moment) (b.first.place moment)
        (b.last.place moment) := by
  rw [holds_relate, relationTests_iff_row]

/-! ## Reading the condition of a relation -/

theorem Condition.exists_of_mem_links {condition : Condition} {link : Link}
    (among : link ∈ condition.sentence.links) :
    ∃ comparison ∈ condition.tests.comparisons, comparison.link = link := by
  obtain ⟨negated, tests⟩ := condition
  cases tests with
  | never => cases negated <;> cases among
  | every comparisons =>
      cases comparisons with
      | nil => cases negated <;> cases among
      | cons first others =>
          have member : link ∈ (first :: others).map Comparison.link := by
            cases negated <;> exact among
          exact List.mem_map.1 member

theorem Period.mem_points {sql : Fragment} {a b : Period}
    (bound : .value sql ∈ [a.first, a.last, b.first, b.last]) :
    sql.render ∈ a.points ++ b.points := by
  rw [Period.points, Period.points, ← List.filterMap_append]
  exact List.mem_filterMap.2 ⟨_, bound, rfl⟩

theorem Comparator.isAtom_symbol (comparator : Comparator) : IsAtom comparator.symbol := by
  cases comparator <;> exact ⟨_, rfl, rfl, by decide⟩

theorem isReading_relate (relation : TemporalRelation) (a b : Period) :
    (relate relation a b).sentence.IsReading (a.points ++ b.points)
      (relate relation a b).render.render := by
  have compared : ∀ link ∈ (relate relation a b).sentence.links,
      link.left ∈ a.points ++ b.points ∧ link.right ∈ a.points ++ b.points := by
    intro link among
    obtain ⟨comparison, member, rfl⟩ := Condition.exists_of_mem_links among
    obtain ⟨left, right⟩ := mem_bounds_of_mem_relate member
    exact ⟨Period.mem_points left, Period.mem_points right⟩
  refine ⟨Condition.text_sentence _, compared, fun atoms other same clear => ?_⟩
  refine Sentence.eq_of_text clear (fun link among => ?_)
    (same.trans (Condition.text_sentence _).symm)
  obtain ⟨left, right⟩ := compared link among
  obtain ⟨comparison, _, rfl⟩ := Condition.exists_of_mem_links among
  exact ⟨atoms _ left, comparison.comparator.isAtom_symbol, atoms _ right⟩

/-- For all periods with or without open ends, the condition of a relation is a text that is read as
a sentence about their bounds. Wherever the points in time lie in a linear order, the sentence has
the truth value of the row of the relation, read in the order with one element more at either
end. -/
theorem relate_holds_iff_row (relation : TemporalRelation) (a b : Period) :
    ∃ sentence : Sentence,
      sentence.IsReading (a.points ++ b.points) (relate relation a b).render.render ∧
      ∀ moment : String → α, sentence.Holds moment ↔
        relation.Row (a.first.place moment) (a.last.place moment) (b.first.place moment)
          (b.last.place moment) :=
  ⟨_, isReading_relate relation a b, fun moment => sentence_relate_iff moment relation a b⟩

end Temporal

end Cql
