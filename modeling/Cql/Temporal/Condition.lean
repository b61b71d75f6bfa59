import Cql.Temporal.Period
import Cql.Vocabulary.Relation

/-!
# Relations between periods

Each relation between two periods says how their four bounds compare. A comparison with infinity is
settled at once; what is left is a conjunction of comparisons in SQL, or its negation.
-/

namespace Cql.Temporal

open Cql.Sql

inductive Comparator where
  | lt | le | eq | ge | gt
  deriving DecidableEq, Repr

namespace Comparator

def symbol : Comparator → String
  | .lt => "<"
  | .le => "<="
  | .eq => "="
  | .ge => ">="
  | .gt => ">"

def holds : Comparator → Ordering → Bool
  | .lt, .lt => true
  | .le, .lt => true
  | .le, .eq => true
  | .eq, .eq => true
  | .ge, .eq => true
  | .ge, .gt => true
  | .gt, .gt => true
  | _, _ => false

end Comparator

structure Comparison where
  left : Fragment
  comparator : Comparator
  right : Fragment
  deriving DecidableEq, Repr

def Comparison.render (comparison : Comparison) : Fragment :=
  comparison.left ++ (" " ++ comparison.comparator.symbol ++ " ") ++ comparison.right

inductive Conjunction where
  /-- One of the comparisons is known to fail. -/
  | never
  /-- All of the comparisons, besides those known to hold. -/
  | every (comparisons : List Comparison)
  deriving DecidableEq, Repr

def Conjunction.comparisons : Conjunction → List Comparison
  | .never => []
  | .every comparisons => comparisons

def Endpoint.side : Endpoint → Int
  | .past => -1
  | .value _ => 0
  | .future => 1

structure Test where
  left : Endpoint
  comparator : Comparator
  right : Endpoint
  deriving DecidableEq, Repr

/-- The test as a conjunction. Two points in time are left to SQL to compare; a comparison with
infinity is settled here. -/
def Test.toConjunction (test : Test) : Conjunction :=
  match test.left, test.right with
  | .value left, .value right => .every [⟨left, test.comparator, right⟩]
  | left, right =>
      if test.comparator.holds (compare left.side right.side) then .every [] else .never

namespace Conjunction

def and : Conjunction → Conjunction → Conjunction
  | .every first, .every second => .every (first ++ second)
  | _, _ => .never

def all (tests : List Test) : Conjunction :=
  tests.foldr (fun test rest => test.toConjunction.and rest) (.every [])

end Conjunction

/-- A condition on points in time: that comparisons hold together or, where it is negated, that they
do not. -/
structure Condition where
  negated : Bool
  tests : Conjunction
  deriving DecidableEq, Repr

namespace Condition

def settled? (condition : Condition) : Option Bool :=
  match condition.tests with
  | .never => some condition.negated
  | .every [] => some !condition.negated
  | .every (_ :: _) => none

def conjunction (condition : Condition) : Fragment :=
  match condition.tests with
  | .never => []
  | .every comparisons => Fragment.joined " AND " (comparisons.map Comparison.render)

def render (condition : Condition) : Fragment :=
  match condition.settled? with
  | some true => "1 = 1"
  | some false => "1 = 0"
  | none =>
      if condition.negated then "(NOT (" ++ condition.conjunction ++ "))"
      else Fragment.bracketed condition.conjunction

end Condition

/-- How the bounds of two periods compare when they stand in a relation; for disjoint periods, when
they do not. -/
def relationTests (relation : TemporalRelation) (a b : Period) : List Test :=
  match relation with
  | .after => [⟨a.first, .gt, b.last⟩]
  | .before => [⟨a.last, .lt, b.first⟩]
  | .contains => [⟨a.first, .lt, b.first⟩, ⟨a.last, .gt, b.last⟩]
  | .during => [⟨a.first, .gt, b.first⟩, ⟨a.last, .lt, b.last⟩]
  | .equals => [⟨a.first, .eq, b.first⟩, ⟨a.last, .eq, b.last⟩]
  | .finishedBy => [⟨a.first, .lt, b.first⟩, ⟨a.last, .eq, b.last⟩]
  | .finishes => [⟨a.first, .gt, b.first⟩, ⟨a.last, .eq, b.last⟩]
  | .disjoint | .intersects => [⟨a.first, .le, b.last⟩, ⟨a.last, .ge, b.first⟩]
  | .meets => [⟨a.last, .eq, b.first⟩]
  | .metBy => [⟨a.first, .eq, b.last⟩]
  | .overlappedBy =>
      [⟨a.first, .gt, b.first⟩, ⟨a.first, .lt, b.last⟩, ⟨a.last, .gt, b.last⟩]
  | .overlaps => [⟨a.first, .lt, b.first⟩, ⟨a.last, .gt, b.first⟩, ⟨a.last, .lt, b.last⟩]
  | .startedBy => [⟨a.first, .eq, b.first⟩, ⟨a.last, .gt, b.last⟩]
  | .starts => [⟨a.first, .eq, b.first⟩, ⟨a.last, .lt, b.last⟩]

def relate (relation : TemporalRelation) (a b : Period) : Condition :=
  ⟨relation == .disjoint, .all (relationTests relation a b)⟩

/-! ## The comparisons of a relation -/

theorem Test.bounds_of_mem {test : Test} {comparison : Comparison}
    (among : comparison ∈ test.toConjunction.comparisons) :
    test.left = .value comparison.left ∧ test.right = .value comparison.right := by
  unfold toConjunction at among
  split at among
  · next left right first second =>
      rw [List.mem_singleton.1 among]
      exact ⟨first, second⟩
  · split at among <;> cases among

theorem Conjunction.mem_and {first second : Conjunction} {comparison : Comparison}
    (among : comparison ∈ (first.and second).comparisons) :
    comparison ∈ first.comparisons ∨ comparison ∈ second.comparisons := by
  cases first with
  | never => cases among
  | every _ =>
      cases second with
      | never => cases among
      | every _ => exact List.mem_append.1 among

theorem Conjunction.exists_test_of_mem_all {tests : List Test} {comparison : Comparison}
    (among : comparison ∈ (Conjunction.all tests).comparisons) :
    ∃ test ∈ tests, test.left = .value comparison.left ∧ test.right = .value comparison.right := by
  induction tests with
  | nil => cases among
  | cons test tests ih =>
      rcases mem_and among with front | back
      · exact ⟨test, List.mem_cons_self, Test.bounds_of_mem front⟩
      · obtain ⟨found, member, bounds⟩ := ih back
        exact ⟨found, List.mem_cons_of_mem _ member, bounds⟩

theorem mem_bounds_of_mem_relationTests {relation : TemporalRelation} {a b : Period} {test : Test}
    (among : test ∈ relationTests relation a b) :
    test.left ∈ [a.first, a.last, b.first, b.last] ∧
      test.right ∈ [a.first, a.last, b.first, b.last] := by
  cases relation <;>
    simp only [relationTests, List.mem_cons, List.not_mem_nil, or_false] at among <;>
    rcases among with rfl | rfl | rfl <;> simp

theorem mem_bounds_of_mem_relate {relation : TemporalRelation} {a b : Period}
    {comparison : Comparison} (among : comparison ∈ (relate relation a b).tests.comparisons) :
    .value comparison.left ∈ [a.first, a.last, b.first, b.last] ∧
      .value comparison.right ∈ [a.first, a.last, b.first, b.last] := by
  obtain ⟨test, member, left, right⟩ := Conjunction.exists_test_of_mem_all among
  rw [← left, ← right]
  exact mem_bounds_of_mem_relationTests member

end Cql.Temporal
