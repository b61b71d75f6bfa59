import Cql.Proofs.Grammar.Span

/-!
# Chains of calls

Matching a phrase calls for the matching of its parts, and that of a token for the parts of its
pattern. Each call has less to do than its caller: it stands farther to the right in the text, or it
stands at the same place and is lower in the grammar. A chain of calls is therefore no longer than a
multiple of the text, and none of the rules comes back to itself before a character is taken. What
is repeated takes a character in every round.
-/

namespace Cql.Grammar

open Cql.Text

namespace Goal

inductive Nests : Nat → Goal → Goal → Prop where
  | here (goal : Goal) : Nests 0 goal goal
  | call {count : Nat} {first second third : Goal} (calls : Calls first second)
      (nests : Nests count second third) : Nests (count + 1) first third

end Goal

/-! ## How low the parts of patterns are -/

namespace Pattern

def height : Pattern → Nat
  | .literal _ | .caseless _ | .one _ => 1
  | .seq first second | .alt first second => max first.height second.height + 1
  | .opt inner | .many inner | .not inner => inner.height + 1

def isSolid : Pattern → Bool
  | .literal _ | .caseless _ | .one _ => true
  | .seq first second | .alt first second => first.isSolid && second.isSolid
  | .opt inner | .not inner => inner.isSolid
  | .many inner => inner.isSolid && !inner.mayBeEmpty

/-- Whether the pattern is solid and lower than what a character provides for. -/
def isLow (pattern : Pattern) : Bool :=
  pattern.isSolid && decide (pattern.height < depthPerCharacter)

theorem scan_many_none {inner : Pattern} {cs : List Char} (fails : inner.scan cs = none) :
    (many inner).scan cs = some ([], cs) := by
  cases cs with
  | nil => rfl
  | cons c cs => simp only [scan, scanRounds, fails]

/-- A repetition of what takes a character in every round is matched round by round. -/
theorem scan_many {inner : Pattern} (visible : inner.mayBeEmpty = false)
    {cs taken left : List Char} (found : inner.scan cs = some (taken, left)) :
    (many inner).scan cs
      = ((many inner).scan left).map fun more => (taken ++ more.1, more.2) := by
  cases cs with
  | nil =>
      rw [scan_nil visible] at found
      cases found
  | cons c cs =>
      have shorter := shrinks_of_scan visible found
      have enough : left.length ≤ cs.length := Nat.le_of_lt_succ shorter
      have same := scanRounds_limit (fun found => shrinks_of_scan visible found)
        (Nat.le_refl left.length) enough
      simp only [scan, scanRounds, found, same, Option.map_some]

end Pattern

def Phrase.hasLowTexts : Phrase → Bool
  | .text pattern => pattern.isLow
  | .seq first second | .join first second | .alt first second =>
      first.hasLowTexts && second.hasLowTexts
  | .opt inner | .again inner => inner.hasLowTexts
  | .start | .symbol _ | .ref _ => true

def Definition.hasLowTexts : Definition → Bool
  | .token pattern => pattern.isLow
  | .phrase body | .fragment body => body.hasLowTexts

set_option maxRecDepth 1024 in
theorem hasLowTexts_definition (rule : Rule) : (definition rule).hasLowTexts = true := by
  cases rule with
  | keyword word => cases word <;> rfl
  | _ => rfl

/-! ## What a call has to do -/

namespace Goal

def IsLow : Goal → Prop
  | .phrase body _ => body.isLow = true ∧ body.hasLowTexts = true
  | .pattern shape _ => shape.isLow = true

/-- What there is to do for the goal. A phrase may call for a pattern at the same place, but not the
other way around, so that it has the levels of a pattern in addition to its own. -/
def load : Goal → Nat
  | .phrase body here =>
      2 * depthPerCharacter * here.rest.length + (depthPerCharacter + body.height ruleHeight)
  | .pattern shape cs => 2 * depthPerCharacter * cs.length + shape.height

variable {phrase inner : Phrase} {pattern part : Pattern} {here there : Cursor}
  {cs left : List Char} {first second third : Goal} {count : Nat}

theorem load_sinks (sinks : phrase.Sinks here inner there) :
    (Goal.phrase inner there).load < (Goal.phrase phrase here).load := by
  have small := Phrase.height_lt sinks.low
  have least := sinks.behind.length_le
  have less := sinks.less
  simp only [load, depthPerCharacter] at small ⊢
  omega

theorem load_pattern_of_phrase (low : part.isLow = true) :
    (Goal.pattern part here.rest).load < (Goal.phrase phrase here).load := by
  rw [Pattern.isLow, Bool.and_eq_true_iff, decide_eq_true_eq] at low
  simp only [load, depthPerCharacter] at low ⊢
  omega

/-- A lower pattern has less to do, where the text is not longer. -/
theorem load_pattern_lower (lower : part.height < pattern.height)
    (least : left.length ≤ cs.length) :
    (Goal.pattern part left).load < (Goal.pattern pattern cs).load := by
  simp only [load, depthPerCharacter]
  omega

/-! ## What a call keeps -/

/-- The second goal is low, has less to do, and stands at the same place or behind it. -/
structure Descends (first second : Goal) : Prop where
  low : second.IsLow
  less : second.load < first.load
  behind : second.rest <:+ first.rest

theorem Calls.hasLowTexts (calls : Calls (.phrase phrase here) (.phrase inner there))
    (texts : phrase.hasLowTexts = true) : inner.hasLowTexts = true := by
  cases calls with
  | @body rule body here defined | @fragment rule body here defined =>
      have known := hasLowTexts_definition rule
      rw [defined] at known
      exact known
  | seqFirst | joinFirst | altFirst => exact (Bool.and_eq_true_iff.1 texts).1
  | seqSecond _ | joinSecond _ | altSecond _ => exact (Bool.and_eq_true_iff.1 texts).2
  | opt | round | again _ => exact texts

theorem descends_part (low : pattern.isLow = true)
    (solid : pattern.isSolid = true → part.isSolid = true) (lower : part.height < pattern.height)
    (skipped : left <:+ cs) : Descends (.pattern pattern cs) (.pattern part left) := by
  refine ⟨?_, load_pattern_lower lower skipped.length_le, skipped⟩
  simp only [IsLow, Pattern.isLow, Bool.and_eq_true, decide_eq_true_eq] at low ⊢
  exact ⟨solid low.1, Nat.lt_trans lower low.2⟩

theorem suffix_of_scan {taken : List Char} (found : pattern.scan cs = some (taken, left)) :
    left <:+ cs :=
  ⟨taken, (pattern.eq_append_of_scan found).symm⟩

theorem Calls.descends_pattern (calls : Calls (.pattern pattern cs) second)
    (low : pattern.isLow = true) : Descends (.pattern pattern cs) second := by
  cases calls with
  | patternSeqFirst | patternAltFirst =>
      exact descends_part low (fun solid => (Bool.and_eq_true_iff.1 solid).1)
        (by simp only [Pattern.height]; omega) (List.suffix_refl _)
  | patternSeqSecond front =>
      exact descends_part low (fun solid => (Bool.and_eq_true_iff.1 solid).2)
        (by simp only [Pattern.height]; omega) (suffix_of_scan front)
  | patternAltSecond =>
      exact descends_part low (fun solid => (Bool.and_eq_true_iff.1 solid).2)
        (by simp only [Pattern.height]; omega) (List.suffix_refl _)
  | patternOpt | patternNot =>
      exact descends_part low id (Nat.lt_succ_self _) (List.suffix_refl _)
  | patternRound =>
      exact descends_part low (fun solid => (Bool.and_eq_true_iff.1 solid).1)
        (Nat.lt_succ_self _) (List.suffix_refl _)
  | patternMany round =>
      have solid := (Bool.and_eq_true_iff.1 low).1
      rw [Pattern.isSolid, Bool.and_eq_true_iff, Bool.not_eq_true'] at solid
      have shorter := Pattern.shrinks_of_scan solid.2 round
      refine ⟨low, ?_, suffix_of_scan round⟩
      simp only [load, depthPerCharacter]
      omega

theorem Calls.descends (calls : Calls first second) (low : first.IsLow) :
    Descends first second := by
  cases first with
  | pattern pattern cs => exact calls.descends_pattern low
  | phrase body here =>
      obtain ⟨low, texts⟩ := low
      cases second with
      | phrase inner there =>
          have sinks := calls.sinks low
          exact ⟨⟨sinks.low, calls.hasLowTexts texts⟩, load_sinks sinks, sinks.behind⟩
      | pattern part cs =>
          cases calls with
          | text => exact ⟨texts, load_pattern_of_phrase texts, List.suffix_refl _⟩
          | @token rule pattern here defined =>
              have known := hasLowTexts_definition rule
              rw [defined] at known
              exact ⟨known, load_pattern_of_phrase known, List.suffix_refl _⟩

/-- A chain of calls has less to do with every call. -/
theorem Nests.load_le (nests : Nests count first second) (low : first.IsLow) :
    second.IsLow ∧ count + second.load ≤ first.load ∧ second.rest <:+ first.rest := by
  induction nests with
  | here goal => exact ⟨low, Nat.le_of_eq (Nat.zero_add _), List.suffix_refl _⟩
  | call calls nests ih =>
      obtain ⟨low', less, behind⟩ := calls.descends low
      obtain ⟨last, sum, farther⟩ := ih low'
      exact ⟨last, by omega, farther.trans behind⟩

end Goal

/-! ## More levels change nothing -/

/-- A match that came to an end has the same outcome with one more level. -/
theorem matchPhrase_succ {depth : Nat} {phrase : Phrase} {here : Cursor} {frontier : Frontier}
    (ended : matchPhrase depth phrase here frontier ≠ .exhausted) :
    matchPhrase (depth + 1) phrase here frontier = matchPhrase depth phrase here frontier := by
  induction depth generalizing phrase here frontier with
  | zero => exact absurd rfl ended
  | succ depth ih =>
      cases phrase with
      | start | symbol _ | text _ => rfl
      | ref rule =>
          simp only [matchPhrase] at ended ⊢
          cases defined : definition rule with
          | token pattern => rfl
          | fragment body =>
              simp only [defined] at ended ⊢
              exact ih ended
          | phrase body =>
              simp only [defined] at ended ⊢
              rw [ih]
              intro cut
              simp only [cut, ne_eq, not_true_eq_false] at ended
      | seq first second | join first second =>
          simp only [matchPhrase] at ended ⊢
          cases found : matchPhrase depth first here frontier with
          | exhausted => simp only [found, ne_eq, not_true_eq_false] at ended
          | failed after => rw [ih (by simp [found]), found]
          | matched text nodes mid after =>
              rw [ih (by simp [found]), found]
              simp only [found] at ended ⊢
              rw [ih]
              intro cut
              simp only [cut, ne_eq, not_true_eq_false] at ended
      | alt first second =>
          simp only [matchPhrase] at ended ⊢
          cases found : matchPhrase depth first here frontier with
          | exhausted => simp only [found, ne_eq, not_true_eq_false] at ended
          | matched text nodes mid after => rw [ih (by simp [found]), found]
          | failed after =>
              rw [ih (by simp [found]), found]
              simp only [found] at ended ⊢
              exact ih ended
      | opt inner =>
          simp only [matchPhrase] at ended ⊢
          rw [ih]
          intro cut
          simp only [cut, ne_eq, not_true_eq_false] at ended
      | again inner =>
          rw [matchPhrase.eq_def (depth + 1 + 1), matchPhrase.eq_def (depth + 1)]
          rw [matchPhrase.eq_def] at ended
          simp only at ended ⊢
          split at ended
          · next text nodes mid after found =>
              rw [ih (by simp [found]), found]
              simp only
              rw [ih]
              intro cut
              simp only [cut, ne_eq, not_true_eq_false] at ended
          · next after found => rw [ih (by simp [found]), found]
          · exact absurd rfl ended

/-- A match that came to an end has the same outcome with any number of levels more. -/
theorem matchPhrase_of_le {depth depth' : Nat} {phrase : Phrase} {here : Cursor}
    {frontier : Frontier} (ended : matchPhrase depth phrase here frontier ≠ .exhausted)
    (enough : depth ≤ depth') :
    matchPhrase depth' phrase here frontier = matchPhrase depth phrase here frontier := by
  induction enough with
  | refl => rfl
  | step enough ih =>
      rw [matchPhrase_succ (by rwa [ih]), ih]

/-- A rule comes to an end on every text, with a depth that is a multiple of what is left of the
text, and from there on always with the same outcome. -/
theorem matchPhrase_ref_settled (rule : Rule) (here : Cursor) (frontier : Frontier) :
    ∃ outcome ≠ Outcome.exhausted, ∀ depth ≥ depthPerCharacter * (here.rest.length + 1),
      matchPhrase depth (.ref rule) here frontier = outcome := by
  have ended : matchPhrase _ (.ref rule) here frontier ≠ .exhausted :=
    matchPhrase_ne_exhausted (isLow_ref rule) (fits_ref rule here)
  exact ⟨_, ended, fun depth enough => matchPhrase_of_le ended enough⟩

namespace Goal

/-- A chain of calls that begins with a rule is no longer than a multiple of what is left of the
text. -/
theorem Nests.length_le {rule : Rule} {here : Cursor} {count : Nat} {goal : Goal}
    (nests : Nests count (.phrase (.ref rule) here) goal) :
    count ≤ 2 * depthPerCharacter * (here.rest.length + 1) := by
  obtain ⟨_, sum, _⟩ := nests.load_le ⟨isLow_ref rule, rfl⟩
  have small := Phrase.height_lt (isLow_ref rule)
  simp only [load, depthPerCharacter] at sum small ⊢
  omega

/-- A rule that is called again inside itself stands farther to the right. -/
theorem Nests.advances {rule : Rule} {here there : Cursor} {count : Nat}
    (nests : Nests (count + 1) (.phrase (.ref rule) here) (.phrase (.ref rule) there)) :
    ∃ taken ≠ [], here.rest = taken ++ there.rest := by
  obtain ⟨_, sum, taken, whole⟩ := nests.load_le ⟨isLow_ref rule, rfl⟩
  refine ⟨taken, ?_, whole.symm⟩
  rintro rfl
  have same : there.rest = here.rest := whole
  simp only [load, same] at sum
  omega

end Goal

/-! ## What is repeated -/

def Pattern.repeated : Pattern → List Pattern
  | .literal _ | .caseless _ | .one _ => []
  | .seq first second | .alt first second => first.repeated ++ second.repeated
  | .opt inner | .not inner => inner.repeated
  | .many inner => inner :: inner.repeated

def Phrase.repeatedTexts : Phrase → List Pattern
  | .text pattern => pattern.repeated
  | .seq first second | .join first second | .alt first second =>
      first.repeatedTexts ++ second.repeatedTexts
  | .opt inner | .again inner => inner.repeatedTexts
  | .start | .symbol _ | .ref _ => []

def Phrase.repeated : Phrase → List Phrase
  | .seq first second | .join first second | .alt first second =>
      first.repeated ++ second.repeated
  | .opt inner => inner.repeated
  | .again inner => inner :: inner.repeated
  | .start | .symbol _ | .text _ | .ref _ => []

def Definition.repeatedTexts : Definition → List Pattern
  | .token pattern => pattern.repeated
  | .phrase body | .fragment body => body.repeatedTexts

def Definition.repeated : Definition → List Phrase
  | .token _ => []
  | .phrase body | .fragment body => body.repeated

theorem Pattern.mayBeEmpty_of_repeated {pattern inner : Pattern} (solid : pattern.isSolid = true)
    (among : inner ∈ pattern.repeated) : inner.mayBeEmpty = false := by
  induction pattern with
  | literal _ | caseless _ | one _ => cases among
  | seq first second ihFirst ihSecond | alt first second ihFirst ihSecond =>
      obtain ⟨one, two⟩ := Bool.and_eq_true_iff.1 solid
      rcases List.mem_append.1 among with front | back
      · exact ihFirst one front
      · exact ihSecond two back
  | opt part ih | not part ih => exact ih solid among
  | many part ih =>
      obtain ⟨one, visible⟩ := Bool.and_eq_true_iff.1 solid
      rcases List.mem_cons.1 among with rfl | deeper
      · exact Bool.not_eq_true' _ ▸ visible
      · exact ih one deeper

theorem Phrase.mayBeEmpty_of_repeatedTexts {phrase : Phrase} {inner : Pattern}
    (texts : phrase.hasLowTexts = true) (among : inner ∈ phrase.repeatedTexts) :
    inner.mayBeEmpty = false := by
  induction phrase with
  | text pattern =>
      exact Pattern.mayBeEmpty_of_repeated (Bool.and_eq_true_iff.1 texts).1 among
  | seq first second ihFirst ihSecond | join first second ihFirst ihSecond
  | alt first second ihFirst ihSecond =>
      obtain ⟨one, two⟩ := Bool.and_eq_true_iff.1 texts
      rcases List.mem_append.1 among with front | back
      · exact ihFirst one front
      · exact ihSecond two back
  | opt part ih | again part ih => exact ih texts among
  | start | symbol _ | ref _ => cases among

theorem Phrase.mayBeEmpty_of_repeated {phrase inner : Phrase} (low : phrase.isLow = true)
    (among : inner ∈ phrase.repeated) : inner.mayBeEmpty = false := by
  induction phrase with
  | seq first second ihFirst ihSecond | join first second ihFirst ihSecond
  | alt first second ihFirst ihSecond =>
      rw [isLow, Bool.and_eq_true_iff, Bool.and_eq_true_iff] at low
      rcases List.mem_append.1 among with front | back
      · exact ihFirst low.2.1 front
      · exact ihSecond low.2.2 back
  | opt part ih =>
      rw [isLow, Bool.and_eq_true_iff] at low
      exact ih low.2 among
  | again part ih =>
      rw [isLow, Bool.and_eq_true_iff, Bool.and_eq_true_iff, Bool.not_eq_true'] at low
      rcases List.mem_cons.1 among with rfl | deeper
      · exact low.2.2
      · exact ih low.2.1 deeper
  | start | symbol _ | text _ | ref _ => cases among

theorem mayBeEmpty_of_repeatedTexts {rule : Rule} {inner : Pattern}
    (among : inner ∈ (definition rule).repeatedTexts) : inner.mayBeEmpty = false := by
  have texts := hasLowTexts_definition rule
  cases defined : definition rule with
  | token pattern =>
      rw [defined] at among texts
      exact Pattern.mayBeEmpty_of_repeated (Bool.and_eq_true_iff.1 texts).1 among
  | phrase body | fragment body =>
      rw [defined] at among texts
      exact Phrase.mayBeEmpty_of_repeatedTexts texts among

theorem mayBeEmpty_of_repeated {rule : Rule} {inner : Phrase}
    (among : inner ∈ (definition rule).repeated) : inner.mayBeEmpty = false := by
  have low := isLow_definition rule
  cases defined : definition rule with
  | token pattern =>
      rw [defined] at among
      cases among
  | phrase body | fragment body =>
      rw [defined] at among low
      exact Phrase.mayBeEmpty_of_repeated (Bool.and_eq_true_iff.1 low).1 among

end Cql.Grammar
