import Cql.Proofs.Grammar.MatchStep
import Cql.Proofs.Text.Boundary

/-!
# Where a match fails

The failure frontier only ever moves to a place at which a rule was tried. So whatever holds of the
places of rules holds of the place where a match fails. Rules are tried between two characters of
the text, and a text that does not match is refused at a boundary of it.
-/

namespace Cql.Grammar

open Cql.Text

/-- The cursor is a place of the text: what is left there is the end of the text, and the offset
counts the bytes in front of it. -/
def Cursor.Within (whole : List Char) (here : Cursor) : Prop :=
  ∃ front, whole = front ++ here.rest ∧ here.offset = byteSize front

variable {whole : List Char} {depth : Nat} {first second inner : Phrase} {here stop : Cursor}
  {before after : Frontier}

theorem Cursor.Within.isBoundary (inside : here.Within whole) : IsBoundary whole here.offset := by
  obtain ⟨front, split, place⟩ := inside
  exact ⟨front, here.rest, split, place⟩

theorem Cursor.Within.reach {text : List Char} (inside : here.Within whole)
    (reaches : here.Reaches text stop) : stop.Within whole := by
  obtain ⟨front, split, place⟩ := inside
  refine ⟨front ++ text, ?_, ?_⟩
  · rw [split, reaches.rest_eq, List.append_assoc]
  · rw [reaches.offset_eq, place, byteSize_append]

/-- Noting a failure moves the frontier to the place of the failure if that is further right. -/
theorem Frontier.offset_note_eq (before after : Frontier) (offset : Nat) (rule : Rule) :
    (before.note after offset rule).offset = max after.offset offset := by
  unfold note
  dsimp only
  split
  · next counted =>
      have same : after.offset = offset := by
        refine Decidable.byContradiction fun other => ?_
        rw [countAt, if_neg other] at counted
        omega
      rw [same, Nat.max_self]
  · split
    · next less => exact (Nat.max_eq_left (Nat.le_of_lt less)).symm
    · next least => split <;> exact (Nat.max_eq_right (Nat.le_of_not_lt least)).symm

/-! ## What a match leaves of the frontier -/

def Outcome.Leaves (holds : Nat → Prop) : Outcome → Prop
  | .matched _ _ _ frontier | .failed frontier => holds frontier.offset
  | .exhausted => True

variable {holds : Nat → Prop}

/-- What a sequence leaves: what its first part does where it fails, and else what the second one
does. -/
theorem leaves_seq
    (fails : ∀ last, matchPhrase depth first here before = .failed last → holds last.offset)
    (goes : ∀ text nodes mid last,
      matchPhrase depth first here before = .matched text nodes mid last →
        (matchPhrase depth second mid.skip last).Leaves holds) :
    (matchPhrase (depth + 1) (.seq first second) here before).Leaves holds := by
  generalize same : matchPhrase (depth + 1) (.seq first second) here before = outcome
  cases matchStep_of_matchPhrase same with
  | cut => trivial
  | seqFirst one => exact fails _ one
  | seqSecond one two | seq one two =>
      have back := goes _ _ _ _ one
      rwa [two] at back

theorem leaves_join
    (fails : ∀ last, matchPhrase depth first here before = .failed last → holds last.offset)
    (goes : ∀ text nodes mid last,
      matchPhrase depth first here before = .matched text nodes mid last →
        (matchPhrase depth second mid last).Leaves holds) :
    (matchPhrase (depth + 1) (.join first second) here before).Leaves holds := by
  generalize same : matchPhrase (depth + 1) (.join first second) here before = outcome
  cases matchStep_of_matchPhrase same with
  | cut => trivial
  | joinFirst one => exact fails _ one
  | joinSecond one two | join one two =>
      have back := goes _ _ _ _ one
      rwa [two] at back

/-- A repetition leaves what its last round does, which is the one that fails. -/
theorem leaves_again
    (fails : ∀ last, matchPhrase depth inner here.skip before = .failed last → holds last.offset)
    (goes : ∀ text nodes mid last,
      matchPhrase depth inner here.skip before = .matched text nodes mid last →
        (matchPhrase depth (.again inner) mid last).Leaves holds) :
    (matchPhrase (depth + 1) (.again inner) here before).Leaves holds := by
  generalize same : matchPhrase (depth + 1) (.again inner) here before = outcome
  cases matchStep_of_matchPhrase same with
  | cut => trivial
  | againNone one => exact fails _ one
  | againMore one more =>
      have rounds := goes _ _ _ _ one
      rwa [more] at rounds

theorem leaves_alt
    (fails : ∀ last, matchPhrase depth first here before = .failed last →
      (matchPhrase depth second here last).Leaves holds)
    (goes : ∀ text nodes mid last,
      matchPhrase depth first here before = .matched text nodes mid last → holds last.offset) :
    (matchPhrase (depth + 1) (.alt first second) here before).Leaves holds := by
  generalize same : matchPhrase (depth + 1) (.alt first second) here before = outcome
  cases matchStep_of_matchPhrase same with
  | cut => trivial
  | altFirst one => exact goes _ _ _ _ one
  | altSecond one two =>
      have back := fails _ one
      rwa [two] at back

theorem leaves_opt (leaves : (matchPhrase depth inner here before).Leaves holds) :
    (matchPhrase (depth + 1) (.opt inner) here before).Leaves holds := by
  generalize same : matchPhrase (depth + 1) (.opt inner) here before = outcome
  cases matchStep_of_matchPhrase same with
  | cut => trivial
  | optSome one | optNone one => rwa [one] at leaves

theorem leaves_phrase {rule : Rule} {body : Phrase} (defined : definition rule = .phrase body)
    (leaves : (matchPhrase depth body here before).Leaves holds)
    (notes : ∀ last : Frontier, holds last.offset → holds (max last.offset here.offset)) :
    (matchPhrase (depth + 1) (.ref rule) here before).Leaves holds := by
  simp only [matchPhrase, defined]
  cases inner : matchPhrase depth body here before with
  | matched text nodes stop last => rwa [inner] at leaves
  | failed last =>
      rw [inner] at leaves
      change holds (before.note last here.offset rule).offset
      rw [Frontier.offset_note_eq]
      exact notes last leaves
  | exhausted => trivial

def Phrase.skips : Phrase → Bool
  | .again _ => true
  | _ => false

/-- Whether blanks are skipped before each part of the phrase but the first. -/
def Phrase.isSpaced : Phrase → Bool
  | .seq first second | .alt first second => first.isSpaced && second.isSpaced
  | .join first second => first.isSpaced && second.isSpaced && second.skips
  | .opt inner | .again inner => inner.isSpaced
  | .start | .symbol _ | .text _ | .ref _ => true

theorem isSpaced_definition (rule : Rule) :
    (match definition rule with
      | .token _ => true
      | .phrase body | .fragment body => body.isSpaced) = true := by
  cases rule <;> rfl

/-! ## What failures keep of the frontier -/

/-- A property of the frontier that survives every failure that is noted, if rules are tried at
settled places only. Blanks are skipped to get to such a place. -/
structure Kept (within settled : Cursor → Prop) (holds : Nat → Prop) : Prop where
  reach : ∀ {here stop : Cursor} {text : List Char},
    within here → here.Reaches text stop → within stop
  skip : ∀ {here : Cursor}, within here → settled here.skip
  note : ∀ {here : Cursor} {last : Nat},
    within here → settled here → holds last → holds (max last here.offset)

/-- What holds of every place where rules are tried is kept, as the frontier moves to such a place
or stays. -/
theorem Kept.of_places {within settled : Cursor → Prop}
    (reach : ∀ {here stop : Cursor} {text : List Char},
      within here → here.Reaches text stop → within stop)
    (skip : ∀ {here : Cursor}, within here → settled here.skip)
    (place : ∀ {here : Cursor}, within here → settled here → holds here.offset) :
    Kept within settled holds := by
  refine ⟨reach, skip, ?_⟩
  intro here last inside ready held
  rcases Nat.le_total last here.offset with less | less
  · rw [Nat.max_eq_right less]
    exact place inside ready
  · rwa [Nat.max_eq_left less]

/-- What every noted failure keeps of the frontier is kept by a match. -/
theorem Kept.leaves {within settled : Cursor → Prop} (kept : Kept within settled holds)
    {phrase : Phrase} (spaced : phrase.isSpaced = true) (inside : within here)
    (ready : phrase.skips = false → settled here) (start : holds before.offset) :
    (matchPhrase depth phrase here before).Leaves holds := by
  induction depth generalizing phrase here before with
  | zero => trivial
  | succ depth ih =>
      have blanks : within here.skip := kept.reach inside (reaches_blanks here)
      have part {inner : Phrase} (spaced : inner.isSpaced = true) (place : settled here) :
          (matchPhrase depth inner here before).Leaves holds :=
        ih spaced inside (fun _ => place) start
      cases phrase with
      | start =>
          rw [matchPhrase]
          split <;> exact start
      | symbol mark =>
          simp only [matchPhrase]
          split
          · exact start
          · split <;> exact start
      | text pattern =>
          simp only [matchPhrase]
          split <;> exact start
      | ref rule =>
          have known := isSpaced_definition rule
          have noted (last : Frontier) (held : holds last.offset) :
              holds (max last.offset here.offset) := kept.note inside (ready rfl) held
          cases defined : definition rule with
          | token pattern =>
              simp only [matchPhrase, defined]
              split
              · exact start
              · change holds (before.note before here.offset rule).offset
                rw [Frontier.offset_note_eq]
                exact noted before start
          | fragment body =>
              rw [defined] at known
              simp only [matchPhrase, defined]
              exact part known (ready rfl)
          | phrase body =>
              rw [defined] at known
              exact leaves_phrase defined (part known (ready rfl)) noted
      | seq first second =>
          obtain ⟨front, back⟩ := Bool.and_eq_true_iff.1 spaced
          have one := part front (ready rfl)
          refine leaves_seq (fun last failed => ?_) (fun text nodes mid last found => ?_)
          · rwa [failed] at one
          · rw [found] at one
            have place := kept.reach inside (reaches_of_matchPhrase found)
            exact ih back (kept.reach place (reaches_blanks mid)) (fun _ => kept.skip place) one
      | join first second =>
          simp only [Phrase.isSpaced, Bool.and_eq_true] at spaced
          obtain ⟨⟨front, back⟩, skips⟩ := spaced
          have one := part front (ready rfl)
          refine leaves_join (fun last failed => ?_) (fun text nodes mid last found => ?_)
          · rwa [failed] at one
          · rw [found] at one
            refine ih back (kept.reach inside (reaches_of_matchPhrase found)) (fun other => ?_) one
            rw [skips] at other
            cases other
      | alt first second =>
          obtain ⟨front, back⟩ := Bool.and_eq_true_iff.1 spaced
          have one := part front (ready rfl)
          refine leaves_alt (fun last failed => ?_) (fun text nodes mid last found => ?_)
          · rw [failed] at one
            exact ih back inside (fun _ => ready rfl) one
          · rwa [found] at one
      | opt inner => exact leaves_opt (part spaced (ready rfl))
      | again inner =>
          have one : (matchPhrase depth inner here.skip before).Leaves holds :=
            ih spaced blanks (fun _ => kept.skip inside) start
          refine leaves_again (fun last failed => ?_) (fun text nodes mid last found => ?_)
          · rwa [failed] at one
          · rw [found] at one
            have moved := kept.reach blanks (reaches_of_matchPhrase found)
            refine ih spaced moved (fun other => ?_) one
            cases other

/-- A text that does not match is refused at a boundary of it. -/
theorem isBoundary_of_parse {rule : Rule} {text : List Char} {frontier : Frontier}
    (refused : parse rule text = .error frontier) : IsBoundary text frontier.offset := by
  have kept : Kept (Cursor.Within text) (fun _ => True) (IsBoundary text) :=
    .of_places (fun inside reaches => inside.reach reaches) (fun _ => trivial)
      fun inside _ => inside.isBoundary
  have leaves : (matchPhrase (depthPerCharacter * (text.length + 1)) (.ref rule) ⟨0, text⟩
      {}).Leaves (IsBoundary text) :=
    kept.leaves rfl ⟨[], rfl, rfl⟩ (fun _ => trivial) (isBoundary_zero text)
  unfold parse at refused
  split at refused
  · cases refused
  · next failed =>
      cases refused
      rw [failed] at leaves
      exact leaves
  · cases refused
    exact isBoundary_zero text

end Cql.Grammar
