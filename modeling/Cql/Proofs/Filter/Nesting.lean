import Cql.Filter.Resumption

/-!
# What a character does to quotes and brackets

Two passes go over the characters of a filter: one bounds the nesting of its brackets, the other
looks for a connective outside quotes. Each follows quotes and brackets by itself. They agree on
what a character opens and closes: both go from state to state as `Nesting.step` says.
-/

namespace Cql.Filter

namespace Nesting

def step (nesting : Nesting) (c : Char) : Nesting :=
  match nesting.quote with
  | some mark => if c == mark then { nesting with quote := none } else nesting
  | none =>
      if c == '\'' || c == '"' then { nesting with quote := some c }
      else if c == '(' then { nesting with depth := nesting.depth + 1 }
      else if c == ')' then { nesting with depth := nesting.depth - 1 }
      else nesting

variable {mark c : Char} {depth : Nat}

theorem step_closing : step ⟨some mark, depth⟩ mark = ⟨none, depth⟩ := by
  simp only [step, BEq.rfl, if_true]

theorem step_inside (other : c ≠ mark) : step ⟨some mark, depth⟩ c = ⟨some mark, depth⟩ := by
  simp only [step, beq_false_of_ne other, Bool.false_eq_true, if_false]

theorem step_outside (other : c ∉ ['\'', '"', '(', ')']) :
    step ⟨none, depth⟩ c = ⟨none, depth⟩ := by
  simp only [List.mem_cons, List.not_mem_nil, or_false, not_or] at other
  obtain ⟨apostrophe, quotation, opening, closing⟩ := other
  simp only [step, beq_false_of_ne apostrophe, beq_false_of_ne quotation,
    beq_false_of_ne opening, beq_false_of_ne closing, Bool.or_self, Bool.false_eq_true, if_false]

end Nesting

variable {nesting : Nesting} {c : Char} {cs : List Char}

/-- The pass that bounds the nesting goes from state to state until a bracket is too deep. -/
theorem overdeepFrom_cons {limit offset : Nat} (bound : nesting.depth ≤ limit) :
    overdeepFrom limit nesting offset (c :: cs) =
      if limit < (nesting.step c).depth then some offset
      else overdeepFrom limit (nesting.step c) (offset + c.utf8Size) cs := by
  obtain ⟨quote, depth⟩ := nesting
  have shallow : ¬ limit < depth := Nat.not_lt.2 bound
  cases quote with
  | some mark =>
      rw [overdeepFrom.eq_def]
      dsimp only
      by_cases closes : c = mark
      · subst closes
        rw [Nesting.step_closing, if_neg shallow, if_pos BEq.rfl]
      · rw [Nesting.step_inside closes, if_neg shallow, if_neg (by simpa using closes)]
  | none =>
      by_cases special : c ∈ ['\'', '"', '(', ')']
      · simp only [List.mem_cons, List.not_mem_nil, or_false] at special
        rcases special with rfl | rfl | rfl | rfl
        · exact (if_neg shallow).symm
        · exact (if_neg shallow).symm
        · rfl
        · exact (if_neg (Nat.not_lt.2 (Nat.le_trans (Nat.sub_le depth 1) bound))).symm
      · rw [Nesting.step_outside special, if_neg shallow, overdeepFrom.eq_def]
        simp only [List.mem_cons, List.not_mem_nil, or_false, not_or] at special
        obtain ⟨apostrophe, quotation, opening, closing⟩ := special
        dsimp only
        split <;> first | rfl | contradiction

/-- The pass that looks for a connective goes from state to state until there is one outside quotes
where no word is going on. -/
theorem resumptionFrom_cons {start offset : Nat} {previous : Option Char} :
    (∃ size rest, nesting.quote = none ∧ start ≤ offset ∧ previous.any isWordPart = false ∧
      connective? (c :: cs) = some (size, rest) ∧
      resumptionFrom start nesting previous offset (c :: cs)
        = some ⟨offset + size, nesting.depth, rest⟩) ∨
    (nesting.quote = none → start ≤ offset → previous.any isWordPart = false →
        connective? (c :: cs) = none) ∧
      resumptionFrom start nesting previous offset (c :: cs)
        = resumptionFrom start (nesting.step c) (some c) (offset + c.utf8Size) cs := by
  obtain ⟨quote, depth⟩ := nesting
  cases quote with
  | some mark =>
      refine .inr ⟨fun unquoted => (Option.some_ne_none mark unquoted).elim, ?_⟩
      rw [resumptionFrom.eq_def]
      dsimp only
      by_cases closes : c = mark
      · subst closes
        rw [Nesting.step_closing, if_pos BEq.rfl]
      · rw [Nesting.step_inside closes, if_neg (by simpa using closes)]
  | none =>
      by_cases special : c ∈ ['\'', '"', '(', ')']
      · simp only [List.mem_cons, List.not_mem_nil, or_false] at special
        rcases special with rfl | rfl | rfl | rfl <;> exact .inr ⟨fun _ _ _ => rfl, rfl⟩
      · rw [Nesting.step_outside special, resumptionFrom.eq_def]
        simp only [List.mem_cons, List.not_mem_nil, or_false, not_or] at special
        obtain ⟨apostrophe, quotation, opening, closing⟩ := special
        simp only [beq_false_of_ne apostrophe, beq_false_of_ne quotation, beq_false_of_ne opening,
          beq_false_of_ne closing, Bool.or_self, Bool.false_eq_true, if_false]
        split
        · next free =>
            simp only [Bool.and_eq_true, decide_eq_true_eq, Bool.not_eq_true'] at free
            cases here : connective? (c :: cs) with
            | none => exact .inr ⟨fun _ _ _ => rfl, rfl⟩
            | some found => exact .inl ⟨found.1, found.2, trivial, free.1, free.2, rfl, rfl⟩
        · next barred =>
            refine .inr ⟨fun _ late apart => ?_, rfl⟩
            exact absurd (by simp [late, apart]) barred

end Cql.Filter
