import Cql.Proofs.Filter.ErrorReport
import Cql.Proofs.Grammar.FrontierPlace
import Mathlib.Data.List.Infix

/-!
# What a message says about the offending text

An error says what stands at its place: the text up to the next white space between apostrophes, or
that the input has ended. As no blank of the grammar stands at the place of an error, be it found
after resuming or not, nothing is left to quote only at the end of the filter and in front of white
space that the grammar knows nothing of. In front of the latter the message is misleading.
-/

namespace Cql.Filter

open Cql.Text Cql.Grammar

/-! ## The place of an error -/

theorem isVisible_sub_brackets {depth offset : Nat} {front text : List Char}
    (visible : IsVisible (List.replicate depth '(' ++ text) offset) (behind : depth ≤ offset) :
    IsVisible (front ++ text) (byteSize front + (offset - depth)) := by
  obtain ⟨before, after, whole, rfl, shown⟩ := visible
  have split : ∃ gap, before = List.replicate depth '(' ++ gap ∧ text = gap ++ after := by
    rcases List.append_eq_append_iff.1 whole with ⟨gap, here⟩ | ⟨gap, brackets, rest⟩
    · exact ⟨gap, here⟩
    · have bound := congrArg byteSize brackets
      have short := length_le_byteSize gap
      rw [byteSize_append, byteSize_brackets] at bound
      obtain rfl : gap = [] := List.eq_nil_of_length_eq_zero (by omega)
      rw [List.append_nil] at brackets
      exact ⟨[], by rw [brackets, List.append_nil], rest.symm⟩
  obtain ⟨gap, rfl, rfl⟩ := split
  refine ⟨front ++ gap, after, (List.append_assoc ..).symm, ?_, shown⟩
  rw [byteSize_append, byteSize_append, byteSize_brackets, Nat.add_sub_cancel_left]

def FoundIn (text : List Char) (error : SyntaxError) : Prop :=
  ∃ offset rules, error = failureAt text offset rules ∧ IsVisible text offset

/-- What is found after resuming is counted back to a visible place. -/
theorem foundIn_of_errorBehind? {text : List Char} {start : Nat} {error : SyntaxError}
    (found : errorBehind? text start = some error) : FoundIn text error := by
  unfold errorBehind? at found
  split at found
  · cases found
  · next place resumes =>
      split at found
      · cases found
      · next frontier refused =>
          cases found
          obtain ⟨_, front, whole, offset⟩ := place_of_resumption resumes
          obtain ⟨visible, behind⟩ := isVisible_of_parse rfl refused
          refine ⟨_, _, rfl, ?_⟩
          rw [whole, offset]
          exact isVisible_sub_brackets visible behind

theorem foundIn_of_errorsBehind {text : List Char} {remaining start : Nat} {error : SyntaxError}
    (among : error ∈ errorsBehind text remaining start) : FoundIn text error := by
  induction remaining generalizing start with
  | zero => cases among
  | succ remaining ih =>
      rw [errorsBehind] at among
      split at among
      · cases among
      · next first found =>
          rcases List.mem_cons.1 among with rfl | later
          · exact foundIn_of_errorBehind? found
          · exact ih later

/-- An error of a filter is that it nests too deep, or was found at a visible place. -/
theorem foundIn_of_parse {filter : String} {errors : List SyntaxError} {error : SyntaxError}
    (refused : parse filter = .error errors) (among : error ∈ errors) :
    error.message = s!"maximum nesting depth of {nestingLimit} exceeded" ∨
      FoundIn filter.toList error := by
  rcases parse_cases filter with
    ⟨offset, _, deep⟩ | ⟨_, tree, _, read⟩ | ⟨_, frontier, failed, reported⟩
  · rw [deep] at refused
    cases refused
    rw [List.mem_singleton.1 among]
    exact .inl rfl
  · rw [read] at refused
    cases refused
  · rw [reported] at refused
    cases refused
    rcases List.mem_cons.1 among with rfl | later
    · have unopened : filter.toList = List.replicate 0 '(' ++ filter.toList := rfl
      exact .inr ⟨_, _, rfl, (isVisible_of_parse unopened failed).1⟩
    · exact .inr (foundIn_of_errorsBehind later)

/-! ## Messages -/

def SaysEnd (message : String) : Prop :=
  "unexpected end of input".toList <+: message.toList

/-- The message begins by quoting a text. -/
def Quotes (found : List Char) (message : String) : Prop :=
  "unexpected '".toList ++ found ++ ['\''] <+: message.toList

/-- A message that quotes a text does not say that the input has ended. -/
theorem Quotes.not_saysEnd {found : List Char} {message : String} (quotes : Quotes found message) :
    ¬ SaysEnd message := by
  rintro ⟨rest, ends⟩
  obtain ⟨rest', quoted⟩ := quotes
  have same := congrArg (List.drop 11) (ends.trans quoted.symm)
  have differ : 'e' = '\'' := (List.cons.inj same).1
  exact absurd differ (by decide)

theorem message_failureAt (text : List Char) (offset : Nat) (rules : List Rule) :
    ("unexpected " ++ describeOffending text offset).toList
      <+: (failureAt text offset rules).message.toList := by
  change _ <+: (describeFailure text offset rules).toList
  unfold describeFailure
  dsimp only
  split
  · exact List.prefix_rfl
  · refine ⟨(", expected " ++ String.intercalate ", " (expectedLabels rules)).toList, ?_⟩
    rw [← String.toList_append, ← String.append_assoc]
    rfl

/-- What stands at a boundary: the text up to the next white space. -/
theorem offendingText_append (before after : List Char) :
    offendingText (before ++ after) (byteSize before)
      = (after.takeWhile fun c => !isWhiteSpace c).take quoteLimit := by
  rw [offendingText, splitAtByte?_append]

/-- Where the text ends or white space follows, nothing is quoted. -/
theorem saysEnd_failureAt {before after : List Char} (rules : List Rule)
    (ends : ∀ c ∈ after.head?, isWhiteSpace c = true) :
    SaysEnd (failureAt (before ++ after) (byteSize before) rules).message := by
  have nothing : offendingText (before ++ after) (byteSize before) = [] := by
    rw [offendingText_append]
    cases after with
    | nil => rfl
    | cons c cs =>
        rw [List.takeWhile_cons_of_neg (by rw [ends c rfl]; decide)]
        rfl
  have message := message_failureAt (before ++ after) (byteSize before) rules
  rw [describeOffending, nothing] at message
  exact message

/-- Anything else is quoted up to the next white space. -/
theorem quotes_failureAt (before : List Char) {c : Char} (cs : List Char) (rules : List Rule)
    (visible : isWhiteSpace c = false) :
    ∃ found, found ≠ [] ∧ found <+: c :: cs ∧
      Quotes found (failureAt (before ++ c :: cs) (byteSize before) rules).message := by
  let found := ((c :: cs).takeWhile fun c => !isWhiteSpace c).take quoteLimit
  have nonempty : found ≠ [] := by
    change List.take quoteLimit (List.takeWhile _ _) ≠ []
    rw [List.takeWhile_cons_of_pos (by rw [visible]; rfl)]
    exact List.cons_ne_nil _ _
  refine ⟨found, nonempty, (List.take_prefix _ _).trans (List.takeWhile_prefix _), ?_⟩
  have message := message_failureAt (before ++ c :: cs) (byteSize before) rules
  have quoted : describeOffending (before ++ c :: cs) (byteSize before)
      = "'" ++ String.ofList found ++ "'" := by
    rw [describeOffending, offendingText_append]
    split
    · next empty => exact absurd empty nonempty
    · rfl
  rw [quoted] at message
  simpa [Quotes, String.toList_append] using message

/-! ## Errors of a filter -/

/-- Every error of a filter but the one that it nests too deep stands at the end of the filter or in
front of a character that is no blank of the grammar. Its message says that the input has ended
exactly if it stands at the end, or in front of white space that is no such blank; anywhere else the
message quotes the text at its place. -/
theorem error_names_offending_text {filter : String} {errors : List SyntaxError}
    {error : SyntaxError} (refused : parse filter = .error errors) (among : error ∈ errors)
    (other : error.message ≠ s!"maximum nesting depth of {nestingLimit} exceeded") :
    ∃ before after, filter.toList = before ++ after ∧ error.offset = byteSize before ∧
      (∀ c ∈ after.head?, Grammar.isBlank c = false) ∧
      (SaysEnd error.message ↔ error.offset = byteSize filter.toList ∨
        ∃ c ∈ after.head?, isWhiteSpace c = true) ∧
      (error.offset < byteSize filter.toList → (∀ c ∈ after.head?, isWhiteSpace c = false) →
        ∃ found, found ≠ [] ∧ found <+: after ∧ Quotes found error.message) := by
  obtain ⟨_, rules, rfl, before, after, whole, rfl, visible⟩ :=
    (foundIn_of_parse refused among).resolve_left other
  refine ⟨before, after, whole, rfl, visible, ?_⟩
  change (_ ↔ byteSize before = _ ∨ _) ∧ (byteSize before < _ → _)
  rw [whole, byteSize_append]
  cases after with
  | nil =>
      refine ⟨iff_of_true (saysEnd_failureAt rules fun _ absent => by cases absent) (.inl rfl), ?_⟩
      exact fun inside => absurd inside (Nat.lt_irrefl _)
  | cons c cs =>
      have size := c.utf8Size_pos
      have inside : byteSize before ≠ byteSize before + byteSize (c :: cs) := by
        rw [byteSize_cons]
        omega
      by_cases white : isWhiteSpace c = true
      · refine ⟨iff_of_true (saysEnd_failureAt rules ?_) (.inr ⟨c, rfl, white⟩), ?_⟩
        · intro d first
          cases first
          exact white
        · intro _ plain
          rw [plain c rfl] at white
          cases white
      · have quotes := quotes_failureAt before cs rules (Bool.eq_false_iff.2 white)
        refine ⟨iff_of_false ?_ ?_, fun _ _ => quotes⟩
        · obtain ⟨_, _, _, quotes⟩ := quotes
          exact quotes.not_saysEnd
        · rintro (ended | ⟨d, first, space⟩)
          · exact inside ended
          · cases first
            exact white space

/-- The errors of a filter may be found without looking at trees. -/
theorem parse_eq_error_of_map {filter : String} {errors : List SyntaxError}
    (known : ((parse filter).map fun _ => ()) = .error errors) : parse filter = .error errors := by
  cases found : parse filter with
  | ok tree =>
      rw [found] at known
      cases known
  | error others =>
      rw [found] at known
      cases known
      rfl

/-- The second error of a filter is found after resuming inside a bracket, and quotes the text
there. -/
theorem error_names_offending_text_resumed :
    let error : SyntaxError := ⟨⟨1, 12⟩, 11, "unexpected '~', expected BETWEEN, IN, IS, LIKE, NOT, "
      ++ "argument list, comparison operator"⟩
    ∃ first found, parse "a = AND (b ~ 1)" = .error [first, error] ∧ found ≠ [] ∧
      found <+: "~ 1)".toList ∧ Quotes found error.message := by
  intro error
  have refused : parse "a = AND (b ~ 1)"
      = .error [⟨⟨1, 5⟩, 4, "unexpected 'AND', expected scalar expression"⟩, error] :=
    parse_eq_error_of_map (by decide +kernel)
  obtain ⟨before, after, whole, offset, _, _, quotes⟩ :=
    error_names_offending_text refused (List.mem_cons_of_mem _ (List.mem_singleton_self error))
      (by decide)
  have split := splitAtByte?_append before after
  rw [← whole, ← offset] at split
  obtain rfl : "~ 1)".toList = after := congrArg Prod.snd (Option.some.inj split)
  obtain ⟨found, nonempty, front, quoted⟩ := quotes (by decide) fun c first => by
    cases first
    decide
  exact ⟨_, found, refused, nonempty, front, quoted⟩

/-- In front of a no-break space, in the middle of a filter, the input is said to have ended. -/
theorem saysEnd_inside_filter :
    ∃ errors error, parse "a\u00a0= 1" = .error errors ∧ error ∈ errors ∧
      error.message ≠ s!"maximum nesting depth of {nestingLimit} exceeded" ∧
      SaysEnd error.message ∧ error.offset < byteSize "a\u00a0= 1".toList := by
  have refused : parse "a\u00a0= 1" = .error [⟨⟨1, 2⟩, 1, "unexpected end of input, expected "
      ++ "BETWEEN, IN, IS, LIKE, NOT, argument list, comparison operator"⟩] :=
    parse_eq_error_of_map (by decide +kernel)
  refine ⟨_, _, refused, List.mem_singleton_self _, by decide, ?_, by decide⟩
  exact List.isPrefixOf_iff_prefix.1 (by decide)

end Cql.Filter
