import Cql.Proofs.Grammar.Derivation

/-!
# The bound on the depth

Matching a phrase calls for the matching of its parts. Each call stands farther to the right in the
text, or it stands at the same place and is lower in the grammar. The levels of recursion that a
match is given are therefore enough for every text: each character is paid for with more levels than
there can be between two characters. A rule that calls itself has taken a character before, and the
longest chain of calls without one is far below the bound.
-/

namespace Cql.Grammar

/-! ## What takes at least one character -/

def Pattern.mayBeEmpty : Pattern → Bool
  | .literal word | .caseless word => word.toList.isEmpty
  | .one _ => false
  | .seq first second => first.mayBeEmpty && second.mayBeEmpty
  | .alt first second => first.mayBeEmpty || second.mayBeEmpty
  | .opt _ | .many _ | .not _ => true

/-- What a pattern takes that may not be empty has a character. -/
theorem Pattern.ne_nil_of_takes {pattern : Pattern} {cs : List Char} (taken : pattern.Takes cs)
    (visible : pattern.mayBeEmpty = false) : cs ≠ [] := by
  induction pattern generalizing cs with
  | literal word =>
      rw [show cs = word.toList from taken]
      exact List.isEmpty_eq_false_iff.1 visible
  | caseless word =>
      rintro rfl
      have empty : word.toList.map Char.toLower = [] := Eq.symm taken
      rw [mayBeEmpty, List.map_eq_nil_iff.1 empty] at visible
      cases visible
  | one cls =>
      obtain ⟨c, _, rfl⟩ := taken
      exact List.cons_ne_nil _ _
  | seq first second ihFirst ihSecond =>
      obtain ⟨xs, ys, one, two, rfl⟩ := taken
      rcases Bool.and_eq_false_iff.1 visible with here | there
      · exact List.append_ne_nil_of_left_ne_nil (ihFirst one here) _
      · exact List.append_ne_nil_of_right_ne_nil _ (ihSecond two there)
  | alt first second ihFirst ihSecond =>
      obtain ⟨left, right⟩ := Bool.or_eq_false_iff.1 visible
      rcases taken with one | two
      · exact ihFirst one left
      · exact ihSecond two right
  | opt _ _ | many _ _ | not _ _ => cases visible

theorem Pattern.ne_nil_of_scan {pattern : Pattern} {cs taken left : List Char}
    (found : pattern.scan cs = some (taken, left)) (visible : pattern.mayBeEmpty = false) :
    taken ≠ [] :=
  ne_nil_of_takes (takes_of_scan pattern found) visible

/-- Whether the phrase may match without taking a character. Of the rules only the end of the text
does. -/
def Phrase.mayBeEmpty : Phrase → Bool
  | .symbol _ => false
  | .text pattern => pattern.mayBeEmpty
  | .ref rule => rule == .endOfInput
  | .seq first second | .join first second => first.mayBeEmpty && second.mayBeEmpty
  | .alt first second => first.mayBeEmpty || second.mayBeEmpty
  | .start | .opt _ | .again _ => true

/-- Whether what a rule stands for may match without taking a character. -/
def Definition.mayBeEmpty : Definition → Bool
  | .token pattern => pattern.mayBeEmpty
  | .phrase body | .fragment body => body.mayBeEmpty

theorem mayBeEmpty_definition (rule : Rule) :
    (definition rule).mayBeEmpty = (rule == .endOfInput) := by
  cases rule with
  | keyword word => cases word <;> rfl
  | _ => rfl

/-- What is derived from a phrase that may not be empty has a character. -/
theorem Derives.ne_nil {phrase : Phrase} {offset : Nat} {text : List Char} {nodes : List Node}
    (derived : Derives phrase offset text nodes) (visible : phrase.mayBeEmpty = false) :
    text ≠ [] := by
  induction derived with
  | start => cases visible
  | symbol mark offset => exact List.cons_ne_nil _ _
  | text found => exact Pattern.ne_nil_of_scan found visible
  | @token rule pattern offset text left defined found =>
      have known := mayBeEmpty_definition rule
      rw [defined] at known
      exact Pattern.ne_nil_of_scan found (known.trans visible)
  | @fragment rule body offset text nodes defined inner ih
  | @phrase rule body offset text nodes defined inner ih =>
      have known := mayBeEmpty_definition rule
      rw [defined] at known
      exact ih (known.trans visible)
  | seq one blank two ihOne ihTwo =>
      rcases Bool.and_eq_false_iff.1 visible with left | right
      · rw [List.append_assoc]
        exact List.append_ne_nil_of_left_ne_nil (ihOne left) _
      · exact List.append_ne_nil_of_right_ne_nil _ (ihTwo right)
  | join one two ihOne ihTwo =>
      rcases Bool.and_eq_false_iff.1 visible with left | right
      · exact List.append_ne_nil_of_left_ne_nil (ihOne left) _
      · exact List.append_ne_nil_of_right_ne_nil _ (ihTwo right)
  | altFirst one ih => exact ih (Bool.or_eq_false_iff.1 visible).1
  | altSecond two ih => exact ih (Bool.or_eq_false_iff.1 visible).2
  | optNone _ _ | optSome _ _ | againNone _ _ | againMore _ _ _ _ _ => cases visible

/-! ## How deep the calls go between two characters -/

def Phrase.height (known : Rule → Nat) : Phrase → Nat
  | .start | .symbol _ | .text _ => 1
  | .ref rule => known rule
  | .seq first second | .join first second =>
      max (first.height known) (if first.mayBeEmpty then second.height known else 0) + 1
  | .alt first second => max (first.height known) (second.height known) + 1
  | .opt inner | .again inner => inner.height known + 1

def heightWithin : Nat → Rule → Nat
  | 0, _ => 1
  | depth + 1, rule =>
      match definition rule with
      | .token _ => 1
      | .phrase body | .fragment body => body.height (heightWithin depth) + 1

/-- How many levels a rule needs before it takes its first character. No rule is more than twelve
rules away from it. -/
def ruleHeight (rule : Rule) : Nat :=
  heightWithin 12 rule

/-- Whether the phrase and all its parts need fewer levels than a character provides, and nothing is
repeated that may be empty. -/
def Phrase.isLow (phrase : Phrase) : Bool :=
  decide (phrase.height ruleHeight < depthPerCharacter) &&
    match phrase with
    | .start | .symbol _ | .text _ | .ref _ => true
    | .seq first second | .join first second | .alt first second => first.isLow && second.isLow
    | .opt inner => inner.isLow
    | .again inner => inner.isLow && !inner.mayBeEmpty

/-- Whether what a rule stands for is low, and needs fewer levels than the rule. -/
def Definition.isLow (rule : Rule) : Definition → Bool
  | .token _ => true
  | .phrase body | .fragment body =>
      body.isLow && decide (body.height ruleHeight < ruleHeight rule)

theorem isLow_definition (rule : Rule) : (definition rule).isLow rule = true := by
  cases rule <;> rfl

theorem ruleHeight_pos (rule : Rule) : 0 < ruleHeight rule := by
  rw [ruleHeight, heightWithin]
  split <;> omega

theorem Phrase.height_pos (phrase : Phrase) : 0 < phrase.height ruleHeight := by
  cases phrase with
  | ref rule => exact ruleHeight_pos rule
  | _ => simp [height]

theorem Phrase.height_lt {phrase : Phrase} (low : phrase.isLow = true) :
    phrase.height ruleHeight < depthPerCharacter := by
  rw [isLow.eq_def, Bool.and_eq_true_iff, decide_eq_true_eq] at low
  exact low.1

/-! ## Calls -/

def Phrase.IsRefused (phrase : Phrase) (here : Cursor) : Prop :=
  ∃ depth before after, matchPhrase depth phrase here before = .failed after

/-- What is to be matched at some point: a phrase at a place, or a pattern at the front of a
text. -/
inductive Goal where
  | phrase (phrase : Phrase) (here : Cursor)
  | pattern (pattern : Pattern) (cs : List Char)

namespace Goal

def rest : Goal → List Char
  | .phrase _ here => here.rest
  | .pattern _ cs => cs

/-- Matching the first goal calls for the second, where the goals that come before it had the
outcome that leads to it. -/
inductive Calls : Goal → Goal → Prop where
  | body {rule : Rule} {body : Phrase} {here : Cursor} (defined : definition rule = .phrase body) :
      Calls (.phrase (.ref rule) here) (.phrase body here)
  | fragment {rule : Rule} {body : Phrase} {here : Cursor}
      (defined : definition rule = .fragment body) :
      Calls (.phrase (.ref rule) here) (.phrase body here)
  | token {rule : Rule} {pattern : Pattern} {here : Cursor}
      (defined : definition rule = .token pattern) :
      Calls (.phrase (.ref rule) here) (.pattern pattern here.rest)
  | text {pattern : Pattern} {here : Cursor} :
      Calls (.phrase (.text pattern) here) (.pattern pattern here.rest)
  | seqFirst {first second : Phrase} {here : Cursor} :
      Calls (.phrase (.seq first second) here) (.phrase first here)
  | seqSecond {first second : Phrase} {here mid : Cursor} {nodes : List Node}
      (front : first.Spans here nodes mid) :
      Calls (.phrase (.seq first second) here) (.phrase second mid.skip)
  | joinFirst {first second : Phrase} {here : Cursor} :
      Calls (.phrase (.join first second) here) (.phrase first here)
  | joinSecond {first second : Phrase} {here mid : Cursor} {nodes : List Node}
      (front : first.Spans here nodes mid) :
      Calls (.phrase (.join first second) here) (.phrase second mid)
  | altFirst {first second : Phrase} {here : Cursor} :
      Calls (.phrase (.alt first second) here) (.phrase first here)
  | altSecond {first second : Phrase} {here : Cursor} (refused : first.IsRefused here) :
      Calls (.phrase (.alt first second) here) (.phrase second here)
  | opt {inner : Phrase} {here : Cursor} : Calls (.phrase (.opt inner) here) (.phrase inner here)
  | round {inner : Phrase} {here : Cursor} :
      Calls (.phrase (.again inner) here) (.phrase inner here.skip)
  | again {inner : Phrase} {here mid : Cursor} {nodes : List Node}
      (round : inner.Spans here.skip nodes mid) :
      Calls (.phrase (.again inner) here) (.phrase (.again inner) mid)
  | patternSeqFirst {first second : Pattern} {cs : List Char} :
      Calls (.pattern (.seq first second) cs) (.pattern first cs)
  | patternSeqSecond {first second : Pattern} {cs taken left : List Char}
      (front : first.scan cs = some (taken, left)) :
      Calls (.pattern (.seq first second) cs) (.pattern second left)
  | patternAltFirst {first second : Pattern} {cs : List Char} :
      Calls (.pattern (.alt first second) cs) (.pattern first cs)
  | patternAltSecond {first second : Pattern} {cs : List Char} (refused : first.scan cs = none) :
      Calls (.pattern (.alt first second) cs) (.pattern second cs)
  | patternOpt {inner : Pattern} {cs : List Char} :
      Calls (.pattern (.opt inner) cs) (.pattern inner cs)
  | patternNot {inner : Pattern} {cs : List Char} :
      Calls (.pattern (.not inner) cs) (.pattern inner cs)
  | patternRound {inner : Pattern} {cs : List Char} :
      Calls (.pattern (.many inner) cs) (.pattern inner cs)
  | patternMany {inner : Pattern} {cs taken left : List Char}
      (round : inner.scan cs = some (taken, left)) :
      Calls (.pattern (.many inner) cs) (.pattern (.many inner) left)

end Goal

variable {depth : Nat} {phrase inner first second : Phrase} {here mid there stop : Cursor}
  {before after : Frontier} {text : List Char} {nodes : List Node}

theorem exists_calls_of_exhausted
    (cut : matchPhrase (depth + 1) phrase here before = .exhausted) :
    ∃ part there between, Goal.Calls (.phrase phrase here) (.phrase part there) ∧
      matchPhrase depth part there between = .exhausted := by
  cases phrase with
  | start =>
      simp only [matchPhrase] at cut
      split at cut <;> cases cut
  | symbol mark =>
      simp only [matchPhrase] at cut
      split at cut
      · cases cut
      · split at cut <;> cases cut
  | text pattern =>
      simp only [matchPhrase] at cut
      split at cut <;> cases cut
  | ref rule =>
      simp only [matchPhrase] at cut
      split at cut
      · split at cut <;> cases cut
      · next defined => exact ⟨_, _, _, .fragment defined, cut⟩
      · next defined =>
          split at cut
          · cases cut
          · cases cut
          · next inner => exact ⟨_, _, _, .body defined, inner⟩
  | seq first second =>
      simp only [matchPhrase] at cut
      split at cut
      · next found =>
          split at cut
          · cases cut
          · exact ⟨_, _, _, .seqSecond ⟨_, _, _, _, found⟩, cut⟩
      · exact ⟨_, _, _, .seqFirst, cut⟩
  | join first second =>
      simp only [matchPhrase] at cut
      split at cut
      · next found =>
          split at cut
          · cases cut
          · exact ⟨_, _, _, .joinSecond ⟨_, _, _, _, found⟩, cut⟩
      · exact ⟨_, _, _, .joinFirst, cut⟩
  | alt first second =>
      simp only [matchPhrase] at cut
      split at cut
      · next failed => exact ⟨_, _, _, .altSecond ⟨_, _, _, failed⟩, cut⟩
      · exact ⟨_, _, _, .altFirst, cut⟩
  | opt inner =>
      simp only [matchPhrase] at cut
      split at cut
      · cases cut
      · exact ⟨_, _, _, .opt, cut⟩
  | again inner =>
      simp only [matchPhrase] at cut
      split at cut
      · next round =>
          split at cut
          · cases cut
          · exact ⟨_, _, _, .again ⟨_, _, _, _, round⟩, cut⟩
      · cases cut
      · next round => exact ⟨_, _, _, .round, round⟩

/-! ## What a call keeps -/

/-- What is left after a match is no longer than before, and shorter after a phrase that may not be
empty. -/
theorem length_of_matchPhrase
    (found : matchPhrase depth phrase here before = .matched text nodes stop after) :
    stop.rest.length ≤ here.rest.length ∧
      (phrase.mayBeEmpty = false → stop.rest.length < here.rest.length) := by
  rw [(reaches_of_matchPhrase found).rest_eq, List.length_append]
  refine ⟨Nat.le_add_left _ _, fun visible => ?_⟩
  have positive := List.length_pos_iff.2 ((derives_of_matchPhrase found).ne_nil visible)
  omega

/-- The second phrase is low. It stands farther to the right than the first, or at the same place
and needs fewer levels. -/
structure Phrase.Sinks (phrase : Phrase) (here : Cursor) (inner : Phrase) (there : Cursor) :
    Prop where
  low : inner.isLow = true
  behind : there.rest <:+ here.rest
  less : there.rest.length < here.rest.length ∨
    inner.height ruleHeight < phrase.height ruleHeight

theorem suffix_skip (here : Cursor) : here.skip.rest <:+ here.rest :=
  List.dropWhile_suffix _

theorem Phrase.Spans.suffix (spans : phrase.Spans here nodes stop) : stop.rest <:+ here.rest := by
  obtain ⟨_, _, text, _, found⟩ := spans
  exact ⟨text, (reaches_of_matchPhrase found).rest_eq.symm⟩

/-- The second part of a sequence stands behind the first, or may come first itself. -/
theorem Phrase.Sinks.of_second (low : second.isLow = true)
    (height : phrase.height ruleHeight = max (first.height ruleHeight)
      (if first.mayBeEmpty then second.height ruleHeight else 0) + 1)
    (front : first.Spans here nodes mid) (skipped : there.rest <:+ mid.rest) :
    phrase.Sinks here second there := by
  refine ⟨low, skipped.trans front.suffix, ?_⟩
  obtain ⟨_, _, _, _, found⟩ := front
  cases empty : first.mayBeEmpty with
  | false =>
      exact .inl (Nat.lt_of_le_of_lt skipped.length_le ((length_of_matchPhrase found).2 empty))
  | true =>
      rw [empty, if_pos rfl] at height
      exact .inr (by omega)

theorem Goal.Calls.sinks (calls : Calls (.phrase phrase here) (.phrase inner there))
    (low : phrase.isLow = true) : phrase.Sinks here inner there := by
  cases calls with
  | @body rule body here defined | @fragment rule body here defined =>
      have lower := isLow_definition rule
      rw [defined, Definition.isLow, Bool.and_eq_true_iff, decide_eq_true_eq] at lower
      exact ⟨lower.1, List.suffix_refl _, .inr lower.2⟩
  | seqFirst | joinFirst | altFirst =>
      rw [Phrase.isLow, Bool.and_eq_true_iff, Bool.and_eq_true_iff] at low
      exact ⟨low.2.1, List.suffix_refl _, .inr (by simp only [Phrase.height]; omega)⟩
  | altSecond =>
      rw [Phrase.isLow, Bool.and_eq_true_iff, Bool.and_eq_true_iff] at low
      exact ⟨low.2.2, List.suffix_refl _, .inr (by simp only [Phrase.height]; omega)⟩
  | seqSecond front =>
      rw [Phrase.isLow, Bool.and_eq_true_iff, Bool.and_eq_true_iff] at low
      exact .of_second low.2.2 rfl front (suffix_skip _)
  | joinSecond front =>
      rw [Phrase.isLow, Bool.and_eq_true_iff, Bool.and_eq_true_iff] at low
      exact .of_second low.2.2 rfl front (List.suffix_refl _)
  | opt =>
      rw [Phrase.isLow, Bool.and_eq_true_iff] at low
      exact ⟨low.2, List.suffix_refl _, .inr (Nat.lt_succ_self _)⟩
  | round =>
      rw [Phrase.isLow, Bool.and_eq_true_iff, Bool.and_eq_true_iff] at low
      exact ⟨low.2.1, suffix_skip _, .inr (Nat.lt_succ_self _)⟩
  | again round =>
      have visible := low
      rw [Phrase.isLow, Bool.and_eq_true_iff, Bool.and_eq_true_iff, Bool.not_eq_true'] at visible
      refine ⟨low, round.suffix.trans (suffix_skip _), .inl ?_⟩
      obtain ⟨_, _, _, _, found⟩ := round
      exact Nat.lt_of_lt_of_le ((length_of_matchPhrase found).2 visible.2.2)
        (suffix_skip _).length_le

/-! ## Enough levels -/

/-- Whether the levels are enough for the phrase at a place. -/
def Phrase.Fits (depth : Nat) (phrase : Phrase) (here : Cursor) : Prop :=
  depthPerCharacter * here.rest.length + phrase.height ruleHeight ≤ depth

theorem Phrase.Fits.sink (fits : phrase.Fits (depth + 1) here)
    (sinks : phrase.Sinks here inner there) : inner.Fits depth there := by
  simp only [Fits] at fits ⊢
  rcases sinks.less with shorter | lower
  · have small := inner.height_lt sinks.low
    have scaled := Nat.mul_le_mul_left depthPerCharacter (Nat.succ_le_of_lt shorter)
    rw [Nat.mul_succ] at scaled
    have positive := phrase.height_pos
    omega
  · have scaled := Nat.mul_le_mul_left depthPerCharacter sinks.behind.length_le
    omega

/-- A match that is given enough levels comes to an end. -/
theorem matchPhrase_ne_exhausted (low : phrase.isLow = true) (fits : phrase.Fits depth here) :
    matchPhrase depth phrase here before ≠ .exhausted := by
  induction depth generalizing phrase here before with
  | zero =>
      have positive := phrase.height_pos
      simp only [Phrase.Fits] at fits
      omega
  | succ depth ih =>
      intro cut
      obtain ⟨part, there, between, calls, cut⟩ := exists_calls_of_exhausted cut
      have sinks := calls.sinks low
      exact ih sinks.low (fits.sink sinks) cut

theorem isLow_ref (rule : Rule) : (Phrase.ref rule).isLow = true := by
  cases rule <;> rfl

/-- A rule has enough levels if each character that is left provides them, and the end once more. -/
theorem fits_ref (rule : Rule) (here : Cursor) :
    (Phrase.ref rule).Fits (depthPerCharacter * (here.rest.length + 1)) here := by
  have small := Phrase.height_lt (isLow_ref rule)
  simp only [Phrase.Fits, Nat.mul_succ]
  omega

/-- Every rule has enough levels to be matched at the start of a text. -/
theorem parse_ne_exhausted (rule : Rule) (text : List Char) :
    matchPhrase (depthPerCharacter * (text.length + 1)) (.ref rule) ⟨0, text⟩ {} ≠ .exhausted :=
  matchPhrase_ne_exhausted (isLow_ref rule) (fits_ref rule ⟨0, text⟩)

end Cql.Grammar
