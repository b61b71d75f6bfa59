import Cql.Proofs.Filter.CorrectTail

/-!
# The nesting of what is read after an error

Before a filter is read, a pass over its characters refuses it if brackets nest too deep. What is
read after an error is another text: the brackets that are open at a connective are opened again,
and the filter goes on behind them. No pass goes over that text, and none has to. Behind the
brackets that were opened again it is in the same state as the filter at the connective, whatever
stands in front of the connective, be it closing brackets without a partner or quotation marks of
any number. A bound that holds for the filter therefore holds for everything that is read of it.
-/

namespace Cql.Filter

open Cql.Text Cql.Grammar

/-! ## The bound at every place -/

/-- At no place of the text are more than `limit` brackets open, if it begins in the given state. -/
def StaysWithin (limit : Nat) (nesting : Nesting) (text : List Char) : Prop :=
  ∀ front, front <+: text → (front.foldl Nesting.step nesting).depth ≤ limit

variable {limit : Nat} {nesting : Nesting} {text more : List Char}

namespace StaysWithin

theorem start (stays : StaysWithin limit nesting text) : nesting.depth ≤ limit :=
  stays [] List.nil_prefix

theorem stop (stays : StaysWithin limit nesting text) :
    (text.foldl Nesting.step nesting).depth ≤ limit :=
  stays text List.prefix_rfl

end StaysWithin

theorem staysWithin_nil : StaysWithin limit nesting [] ↔ nesting.depth ≤ limit := by
  refine ⟨StaysWithin.start, fun bound front begins => ?_⟩
  rw [List.prefix_nil.1 begins]
  exact bound

theorem staysWithin_cons {c : Char} : StaysWithin limit nesting (c :: text) ↔
    nesting.depth ≤ limit ∧ StaysWithin limit (nesting.step c) text := by
  constructor
  · intro stays
    refine ⟨stays.start, fun front begins => ?_⟩
    exact stays (c :: front) (List.cons_prefix_cons.2 ⟨rfl, begins⟩)
  · rintro ⟨here, later⟩ front begins
    rcases List.prefix_cons_iff.1 begins with rfl | ⟨others, rfl, inner⟩
    · exact here
    · exact later others inner

/-- A text stays within a bound if its first part does, and the second from there on. -/
theorem staysWithin_append : StaysWithin limit nesting (text ++ more) ↔
    StaysWithin limit nesting text ∧ StaysWithin limit (text.foldl Nesting.step nesting) more := by
  induction text generalizing nesting with
  | nil =>
      rw [List.nil_append, List.foldl_nil, staysWithin_nil]
      exact ⟨fun stays => ⟨stays.start, stays⟩, And.right⟩
  | cons c text ih =>
      rw [List.cons_append, staysWithin_cons, ih, staysWithin_cons, and_assoc, List.foldl_cons]

/-- No bracket nests too deep exactly if the text stays within the bound. -/
theorem overdeepFrom_eq_none_iff {offset : Nat} (bound : nesting.depth ≤ limit) :
    overdeepFrom limit nesting offset text = none ↔ StaysWithin limit nesting text := by
  induction text generalizing nesting offset with
  | nil => exact iff_of_true rfl (staysWithin_nil.2 bound)
  | cons c text ih =>
      rw [overdeepFrom_cons bound, staysWithin_cons]
      by_cases deep : limit < (nesting.step c).depth
      · rw [if_pos deep]
        refine iff_of_false (Option.some_ne_none offset) fun stays => ?_
        exact absurd stays.2.start (Nat.not_le.2 deep)
      · rw [if_neg deep, ih (Nat.not_lt.1 deep)]
        exact ⟨fun later => ⟨bound, later⟩, And.right⟩

theorem firstOverdeep_eq_none_iff : firstOverdeep text limit = none ↔ StaysWithin limit {} text :=
  overdeepFrom_eq_none_iff (Nat.zero_le limit)

/-! ## Brackets that are opened again -/

theorem deepens_brackets (count : Nat) : Deepens (List.replicate count '(') count := by
  induction count with
  | zero => exact fun _ => rfl
  | succ count ih =>
      rw [List.replicate_succ, Nat.add_comm]
      exact deepens_bracket.append ih

theorem staysWithin_reopened {count : Nat} :
    StaysWithin limit {} (List.replicate count '(' ++ text) ↔
      StaysWithin limit ⟨none, count⟩ text := by
  have opened (count : Nat) : (List.replicate count '(').foldl Nesting.step {} = ⟨none, count⟩ := by
    rw [deepens_brackets count 0, Nat.zero_add]
  rw [staysWithin_append, opened]
  refine ⟨And.right, fun stays => ⟨fun front begins => ?_, stays⟩⟩
  obtain ⟨fewer, brackets⟩ := List.prefix_replicate_iff.1 begins
  rw [brackets, opened]
  exact Nat.le_trans fewer stays.start

/-- Where the reading resumes, a bound on the brackets of the text falls into one on what stands in
front and one on what is read from there on. -/
theorem firstOverdeep_eq_none_iff_reopened {start : Nat} {place : Resumption}
    (resumes : resumption text start = some place) :
    ∃ before, splitAtByte? text place.offset = some (before, place.rest) ∧ ∀ limit,
      (firstOverdeep text limit = none ↔ firstOverdeep before limit = none ∧
        firstOverdeep (List.replicate place.depth '(' ++ place.rest) limit = none) ∧
      (firstOverdeep before limit = none → place.depth ≤ limit) := by
  obtain ⟨before, whole, size, nested⟩ := nesting_of_resumption resumes
  refine ⟨before, ?_, fun limit => ⟨?_, fun shallow => ?_⟩⟩
  · rw [whole, ← size]
    exact splitAtByte?_append before place.rest
  · rw [firstOverdeep_eq_none_iff, firstOverdeep_eq_none_iff, firstOverdeep_eq_none_iff,
      staysWithin_reopened, whole, staysWithin_append, nested]
  · have bound := (firstOverdeep_eq_none_iff.1 shallow).stop
    rwa [nested] at bound

/-- If no bracket of a filter nests too deep, then no more brackets are open where the reading
resumes than the bound allows, and none nests too deep in what is read from there on. -/
theorem reopened_within_limit {start : Nat} {place : Resumption}
    (shallow : firstOverdeep text limit = none) (resumes : resumption text start = some place) :
    place.depth ≤ limit ∧
    (∃ before, splitAtByte? text place.offset = some (before, place.rest)) ∧
    firstOverdeep (List.replicate place.depth '(' ++ place.rest) limit = none := by
  obtain ⟨before, split, falls⟩ := firstOverdeep_eq_none_iff_reopened resumes
  obtain ⟨both, bound⟩ := falls limit
  obtain ⟨front, reopened⟩ := both.1 shallow
  exact ⟨bound front, ⟨before, split⟩, reopened⟩

/-- The bound is reached only behind the connective, where a third bracket is opened. The filter
begins with closing brackets that have no partner and ends inside a quotation. -/
theorem reopened_within_limit_unbalanced :
    let text := ")) (('(' ! AND (b = \"(\")) OR) c = 'd((".toList
    firstOverdeep text 3 = none ∧
      ∃ place, resumption text 9 = some place ∧ place.depth = 2 ∧
        place.rest = " (b = \"(\")) OR) c = 'd((".toList ∧
        firstOverdeep (List.replicate 2 '(' ++ place.rest) 2 = some 3 ∧
        firstOverdeep (List.replicate 2 '(' ++ place.rest) 3 = none := by
  intro text
  have shallow : firstOverdeep text 3 = none := rfl
  have resumes : resumption text 9 = some ⟨14, 2, " (b = \"(\")) OR) c = 'd((".toList⟩ := rfl
  obtain ⟨_, _, reopened⟩ := reopened_within_limit shallow resumes
  exact ⟨shallow, _, resumes, rfl, rfl, rfl, reopened⟩

end Cql.Filter
