import Cql.Text.Offset

/-!
# Boundaries and positions

A byte of a text is a boundary when no character reaches over it. The line and the column of a
boundary are those after the text in front of it, and boundaries that follow each other have
positions that follow each other: a character moves on by a column or to the next line, and where a
carriage return and a line feed end a line together, the place between them still comes before the
place behind them.
-/

namespace Cql.Text

theorem utf8ByteSize_ofList (text : List Char) :
    (String.ofList text).utf8ByteSize = byteSize text := by
  induction text with
  | nil => rfl
  | cons c cs ih =>
      have split : String.ofList (c :: cs) = String.singleton c ++ String.ofList cs := by
        rw [String.singleton_eq_ofList, ← String.ofList_append]
        rfl
      rw [split, String.utf8ByteSize_append, String.utf8ByteSize_singleton, ih, byteSize_cons]

/-- At a byte a text is cut in one way only. -/
theorem parts_eq_of_byteSize {before after before' after' : List Char}
    (whole : before ++ after = before' ++ after') (size : byteSize before = byteSize before') :
    before = before' ∧ after = after' := by
  have split := splitAtByte?_append before after
  rw [whole, size, splitAtByte?_append] at split
  obtain ⟨front, back⟩ := Prod.mk.inj (Option.some.inj split)
  exact ⟨front.symm, back.symm⟩

/-- The byte lies between two characters of the text or at one of its ends. -/
def IsBoundary (text : List Char) (offset : Nat) : Prop :=
  ∃ before after, text = before ++ after ∧ offset = byteSize before

theorem isBoundary_zero (text : List Char) : IsBoundary text 0 :=
  ⟨[], text, rfl, rfl⟩

/-- A boundary of the rest of a text is one of the text. -/
theorem IsBoundary.after {text : List Char} {offset : Nat} (boundary : IsBoundary text offset)
    (before : List Char) : IsBoundary (before ++ text) (byteSize before + offset) := by
  obtain ⟨front, back, rfl, rfl⟩ := boundary
  refine ⟨before ++ front, back, ?_, ?_⟩
  · rw [List.append_assoc]
  · rw [byteSize_append]

theorem IsBoundary.le {text : List Char} {offset : Nat} (boundary : IsBoundary text offset) :
    offset ≤ byteSize text := by
  obtain ⟨before, after, rfl, rfl⟩ := boundary
  rw [byteSize_append]
  exact Nat.le_add_right _ _

theorem positionAt_append (before after : List Char) :
    positionAt (before ++ after) (byteSize before) = Position.after ⟨1, 1⟩ before := by
  rw [positionAt, splitAtByte?_append]

namespace Position

/-- The position stands on an earlier line than the other, or on the same line in an earlier
column. -/
def Before (here there : Position) : Prop :=
  here.line < there.line ∨ here.line = there.line ∧ here.column < there.column

instance (here there : Position) : Decidable (here.Before there) :=
  inferInstanceAs (Decidable (_ ∨ _))

variable {here there place : Position}

theorem Before.trans (first : here.Before there) (second : there.Before place) :
    here.Before place := by
  unfold Before at *
  omega

theorem before_nextLine (here : Position) (column : Nat) :
    here.Before ⟨here.line + 1, column⟩ :=
  .inl (Nat.lt_succ_self _)

theorem before_nextColumn (here : Position) : here.Before ⟨here.line, here.column + 1⟩ :=
  .inr ⟨rfl, Nat.lt_succ_self _⟩

/-- What was before a position is before every position further on. -/
theorem Before.after (first : here.Before there) (cs : List Char) :
    here.Before (there.after cs) := by
  fun_induction Position.after there cs with
  | case1 => exact first
  | case2 there cs ih | case3 there cs ih => exact ih (first.trans (there.before_nextLine 1))
  | case4 there c cs _ _ ih => exact ih (first.trans there.before_nextColumn)

theorem before_after (here : Position) {cs : List Char} (nonempty : cs ≠ []) :
    here.Before (here.after cs) := by
  fun_cases Position.after here cs with
  | case1 => exact absurd rfl nonempty
  | case2 cs | case3 cs => exact (here.before_nextLine 1).after cs
  | case4 c cs _ _ => exact here.before_nextColumn.after cs

theorem after_before_append (here : Position) (before : List Char) {more : List Char}
    (nonempty : more ≠ []) : (here.after before).Before (here.after (before ++ more)) := by
  fun_induction Position.after here before with
  | case1 here => exact here.before_after nonempty
  | case2 here cs ih | case3 here cs ih => exact ih
  | case4 here c cs notPair notFeed ih =>
      by_cases pair : c = '\r' ∧ ∃ rest, cs ++ more = '\n' :: rest
      · obtain ⟨rfl, rest, split⟩ := pair
        cases cs with
        | nil =>
            rw [List.nil_append] at split
            subst split
            exact ((⟨here.line, here.column + 1⟩ : Position).before_nextLine 1).after rest
        | cons d cs =>
            obtain ⟨rfl, _⟩ := List.cons.inj split
            exact absurd rfl (notPair cs rfl)
      · have step : here.after (c :: (cs ++ more))
            = Position.after ⟨here.line, here.column + 1⟩ (cs ++ more) := by
          rw [Position.after]
          · rintro rest rfl split
            exact pair ⟨rfl, rest, split⟩
          · exact notFeed
        rw [List.cons_append, step]
        exact ih

end Position

theorem positionAt_before {text : List Char} {offset later : Nat} (one : IsBoundary text offset)
    (two : IsBoundary text later) (less : offset < later) :
    (positionAt text offset).Before (positionAt text later) := by
  obtain ⟨before, after, rfl, rfl⟩ := one
  obtain ⟨before', after', whole, rfl⟩ := two
  rcases List.append_eq_append_iff.1 whole with ⟨gap, rfl, rfl⟩ | ⟨gap, rfl, rfl⟩
  · have nonempty : gap ≠ [] := by
      rintro rfl
      rw [List.append_nil] at less
      exact Nat.lt_irrefl _ less
    rw [positionAt_append, whole, positionAt_append]
    exact Position.after_before_append _ before nonempty
  · rw [byteSize_append] at less
    omega

end Cql.Text
