import Cql.Proofs.Filter.ErrorReport
import Cql.Proofs.Grammar.CallChain

/-!
# Reading comes to an end

A rule has an outcome on every text, and needs no more levels of recursion than a multiple of the
text. After an error the reading resumes behind it, and so do the readings after that: there are
only so many errors to find, whether or not their number is limited.
-/

namespace Cql.Filter

open Cql.Text Cql.Grammar

/-! ## Resuming without a limit -/

/-- The errors that are found behind byte `offset` when the reading resumes as long as it can. -/
inductive Recovers (text : List Char) : Nat → List SyntaxError → Prop where
  | done {offset : Nat} (silent : errorBehind? text offset = none) : Recovers text offset []
  | more {offset : Nat} {error : SyntaxError} {errors : List SyntaxError}
      (found : errorBehind? text offset = some error)
      (others : Recovers text error.offset errors) : Recovers text offset (error :: errors)

theorem Recovers.take_eq {text : List Char} {offset : Nat} {errors : List SyntaxError}
    (recovers : Recovers text offset errors) (limit : Nat) :
    errorsBehind text limit offset = errors.take limit := by
  induction recovers generalizing limit with
  | done silent =>
      cases limit with
      | zero => rfl
      | succ limit => simp only [errorsBehind, silent, List.take_nil]
  | more found others ih =>
      cases limit with
      | zero => rfl
      | succ limit => simp only [errorsBehind, found, ih, List.take_succ_cons]

/-- Every error stands behind the one before it and within the text, so that the bytes behind the
last error bound the number of those to come. -/
theorem exists_recovers (text : List Char) (offset : Nat) :
    ∃ errors, Recovers text offset errors ∧ errors.length ≤ byteSize text - offset := by
  induction left : byteSize text - offset using Nat.strong_induction_on generalizing offset with
  | _ size ih =>
      cases found : errorBehind? text offset with
      | none => exact ⟨[], .done found, Nat.zero_le _⟩
      | some error =>
          obtain ⟨behind, stands⟩ := standsIn_of_errorBehind? found
          have within := stands.boundary.le
          obtain ⟨errors, others, few⟩ :=
            ih (byteSize text - error.offset) (by omega) error.offset rfl
          refine ⟨error :: errors, .more found others, ?_⟩
          rw [List.length_cons]
          omega

/-! ## Reading ends -/

structure Ends (rule : Rule) (here : Cursor) : Prop where
  /-- There is an outcome, and levels beyond a multiple of the text do not change it. -/
  settled : ∀ frontier, ∃ outcome ≠ Outcome.exhausted,
    ∀ depth ≥ depthPerCharacter * (here.rest.length + 1),
      matchPhrase depth (.ref rule) here frontier = outcome
  /-- As many calls are inside each other as a multiple of the text allows. -/
  nested : ∀ count goal, Goal.Nests count (.phrase (.ref rule) here) goal →
    count ≤ 2 * depthPerCharacter * (here.rest.length + 1)
  /-- The rule is not called again inside itself before a character is taken. -/
  advances : ∀ count there,
    Goal.Nests (count + 1) (.phrase (.ref rule) here) (.phrase (.ref rule) there) →
      ∃ taken ≠ [], here.rest = taken ++ there.rest

/-- What it takes to repeat a part of a rule. -/
structure Repeats (rule : Rule) : Prop where
  /-- A phrase that is repeated takes a character. -/
  phrases : ∀ inner ∈ (definition rule).repeated, ∀ depth here before text nodes stop after,
    matchPhrase depth inner here before = .matched text nodes stop after → text ≠ []
  /-- A pattern that is repeated takes a character. -/
  patterns : ∀ inner ∈ (definition rule).repeatedTexts, ∀ cs taken left,
    inner.scan cs = some (taken, left) → taken ≠ []
  /-- A pattern is repeated for as long as it matches. -/
  rounds : ∀ inner ∈ (definition rule).repeatedTexts, ∀ cs,
    (inner.scan cs = none → (Pattern.many inner).scan cs = some ([], cs)) ∧
      ∀ taken left, inner.scan cs = some (taken, left) →
        (Pattern.many inner).scan cs
          = ((Pattern.many inner).scan left).map fun more => (taken ++ more.1, more.2)

theorem ends (rule : Rule) (here : Cursor) : Ends rule here where
  settled := matchPhrase_ref_settled rule here
  nested _ _ nests := nests.length_le
  advances _ _ nests := nests.advances

theorem repeats (rule : Rule) : Repeats rule where
  phrases _ among _ _ _ _ _ _ _ found :=
    (derives_of_matchPhrase found).ne_nil (mayBeEmpty_of_repeated among)
  patterns _ among _ _ _ found :=
    Pattern.ne_nil_of_scan found (mayBeEmpty_of_repeatedTexts among)
  rounds _ among _ :=
    ⟨Pattern.scan_many_none, fun _ _ => Pattern.scan_many (mayBeEmpty_of_repeatedTexts among)⟩

/-- Every rule comes to an end on every text: at a depth that is bounded by a multiple of the text,
without coming back to itself at the same place, and without repeating what takes no character.
After an error the reading resumes only finitely often, and the errors that are reported are the
first of those it would find. -/
theorem reading_ends :
    (∀ rule here, Ends rule here) ∧ (∀ rule, Repeats rule) ∧
      ∀ text offset, ∃ errors, Recovers text offset errors ∧
        errors.length ≤ byteSize text - offset ∧
        ∀ limit, errorsBehind text limit offset = errors.take limit := by
  refine ⟨ends, repeats, fun text offset => ?_⟩
  obtain ⟨errors, recovers, few⟩ := exists_recovers text offset
  exact ⟨errors, recovers, few, recovers.take_eq⟩

end Cql.Filter
