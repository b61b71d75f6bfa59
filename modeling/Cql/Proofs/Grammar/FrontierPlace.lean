import Cql.Proofs.Grammar.FailurePlace
import Cql.Proofs.Grammar.Lookahead

/-!
# How far the failure frontier gets

The failure frontier never moves back. It stands where a rule was tried, and as blanks are skipped
before anything is tried, it never stands in front of a blank: at the latest the failure of the
expression behind the blanks at the start of a text takes it past them. The same holds for brackets
at the start of a text. The grammar has to open all of them before it can try anything else, so that
whatever is wrong with the text, the failure lies behind them.
-/

namespace Cql.Grammar

open Cql.Text

variable {depth : Nat} {first second inner : Phrase} {here mid stop : Cursor}
  {before after : Frontier} {text : List Char}

/-! ## Places behind each other -/

theorem Cursor.Reaches.stop_eq {other : Cursor} {text' : List Char} (one : here.Reaches text stop)
    (two : here.Reaches text' other) (rest : stop.rest = other.rest) : stop = other := by
  have same : text = text' := by
    have whole := one.rest_eq.symm.trans two.rest_eq
    rw [rest] at whole
    exact List.append_cancel_right whole
  have offset : stop.offset = other.offset := by rw [one.offset_eq, two.offset_eq, same]
  cases stop
  cases other
  exact Cursor.mk.injEq .. ▸ ⟨offset, rest⟩

theorem Cursor.skip_eq_self (settled : here.rest.dropWhile isBlank = here.rest) :
    here.skip = here :=
  (reaches_blanks here).stop_eq (.refl here) settled

theorem Cursor.Reaches.offset_le (reaches : here.Reaches text stop) :
    here.offset ≤ stop.offset := by
  rw [reaches.offset_eq]
  exact Nat.le_add_right _ _

theorem Cursor.offset_le_skip (here : Cursor) : here.offset ≤ here.skip.offset :=
  (reaches_blanks here).offset_le

/-! ## Where the frontier is left -/

theorem Outcome.Leaves.imp {outcome : Outcome} {holds other : Nat → Prop}
    (leaves : outcome.Leaves holds) (weaker : ∀ offset, holds offset → other offset) :
    outcome.Leaves other := by
  cases outcome with
  | matched _ _ _ frontier => exact weaker _ leaves
  | failed frontier => exact weaker _ leaves
  | exhausted => trivial

/-- The frontier never moves back. -/
theorem leaves_of_le {phrase : Phrase} {least : Nat} (spaced : phrase.isSpaced = true)
    (start : least ≤ before.offset) :
    (matchPhrase depth phrase here before).Leaves (least ≤ ·) := by
  have kept : Kept (fun _ => True) (fun _ => True) (least ≤ ·) :=
    ⟨fun _ _ => trivial, fun _ => trivial,
      fun _ _ reached => Nat.le_trans reached (Nat.le_max_left _ _)⟩
  exact kept.leaves spaced trivial (fun _ => trivial) start

/-! ## Phrases that press the frontier on -/

namespace Phrase

/-- Where the phrase fails, the frontier is at the place of the phrase or behind it. -/
def Reports (phrase : Phrase) : Prop :=
  ∀ ⦃depth : Nat⦄ ⦃here : Cursor⦄ ⦃before after : Frontier⦄,
    matchPhrase depth phrase here before = .failed after → here.offset ≤ after.offset

/-- Whatever comes of the phrase, the frontier is at the given byte or behind it. -/
def Presses (phrase : Phrase) (here : Cursor) (least : Nat) : Prop :=
  ∀ depth before, (matchPhrase depth phrase here before).Leaves (least ≤ ·)

theorem reports_ref {rule : Rule} (whole : ∀ body, definition rule ≠ .fragment body) :
    (ref rule).Reports := by
  intro depth here before after failed
  have noted (last : Frontier) : here.offset ≤ (before.note last here.offset rule).offset := by
    rw [Frontier.offset_note_eq]
    exact Nat.le_max_right _ _
  obtain ⟨_, step⟩ := exists_matchStep failed
  cases step with
  | tokenFails _ _ => exact noted before
  | phraseFails _ _ => exact noted _
  | fragment defined _ => exact absurd defined (whole _)

theorem Reports.seq (one : first.Reports) (two : second.Reports) :
    (Phrase.seq first second).Reports := by
  intro depth here before after failed
  obtain ⟨_, step⟩ := exists_matchStep failed
  cases step with
  | seqFirst failed => exact one failed
  | seqSecond found failed =>
      have reached := (reaches_of_matchPhrase found).offset_le
      exact Nat.le_trans reached (Nat.le_trans (Cursor.offset_le_skip _) (two failed))

theorem Presses.mono {phrase : Phrase} {least lower : Nat} (presses : phrase.Presses here least)
    (under : lower ≤ least) : phrase.Presses here lower :=
  fun depth before => (presses depth before).imp fun _ reached => Nat.le_trans under reached

/-- A repetition ends with a failure, which lies behind its rounds. -/
theorem Reports.again (reports : inner.Reports) (here : Cursor) :
    (Phrase.again inner).Presses here here.offset := by
  intro depth
  induction depth generalizing here with
  | zero => exact fun _ => trivial
  | succ depth ih =>
      intro before
      have skipped := here.offset_le_skip
      refine leaves_again (fun last failed => ?_) (fun text nodes mid last found => ?_)
      · exact Nat.le_trans skipped (reports failed)
      · have reached := (reaches_of_matchPhrase found).offset_le
        exact (ih mid last).imp fun _ late => Nat.le_trans skipped (Nat.le_trans reached late)

theorem Reports.many (reports : inner.Reports) (here : Cursor) :
    (Phrase.many inner).Presses here here.offset := by
  rintro (_ | _ | depth) before
  · trivial
  · trivial
  · refine leaves_opt (leaves_join (fun last failed => reports failed) ?_)
    intro text nodes mid last found
    have reached := (reaches_of_matchPhrase found).offset_le
    exact (reports.again mid depth last).imp fun _ late => Nat.le_trans reached late

theorem Presses.phrase {rule : Rule} {body : Phrase} {least : Nat}
    (defined : definition rule = .phrase body) (presses : body.Presses here least) :
    (ref rule).Presses here least := by
  rintro (_ | depth) before
  · trivial
  · exact leaves_phrase defined (presses depth before)
      fun _ reached => Nat.le_trans reached (Nat.le_max_left _ _)

theorem Presses.seq_first {least : Nat} (one : first.Presses here least)
    (spaced : second.isSpaced = true) : (Phrase.seq first second).Presses here least := by
  rintro (_ | depth) before
  · trivial
  · have front := one depth before
    refine leaves_seq (fun last failed => ?_) (fun text nodes mid last found => ?_)
    · rwa [failed] at front
    · rw [found] at front
      exact leaves_of_le spaced front

/-- A sequence presses as its second part does, if it is known where the first one ends. -/
theorem Presses.seq_second {least : Nat} {outlines : List Outline}
    (one : first.GivesAt here outlines mid.rest) (reaches : here.Reaches text mid)
    (two : second.Presses mid.skip least) : (Phrase.seq first second).Presses here least := by
  rintro (_ | depth) before
  · trivial
  · refine leaves_seq (fun last failed => (one.not_failed failed).elim)
      (fun text nodes place last found => ?_)
    rw [(reaches_of_matchPhrase found).stop_eq reaches (one.made found).2]
    exact two depth last

theorem Presses.alt_first {least : Nat} (one : first.Presses here least)
    (spaced : second.isSpaced = true) : (Phrase.alt first second).Presses here least := by
  rintro (_ | depth) before
  · trivial
  · have front := one depth before
    refine leaves_alt (fun last failed => ?_) (fun text nodes mid last found => ?_)
    · rw [failed] at front
      exact leaves_of_le spaced front
    · rwa [found] at front

theorem Presses.alt_second {least : Nat} (fails : first.Fails here.rest)
    (two : second.Presses here least) : (Phrase.alt first second).Presses here least := by
  rintro (_ | depth) before
  · trivial
  · exact leaves_alt (fun last _ => two depth last)
      (fun text nodes mid last found => (fails.not_matched found).elim)

end Phrase

/-! ## Brackets in front of a text -/

open Phrase (many bracketed kw)

theorem presses_booleanExpression (here : Cursor) :
    (Phrase.ref .booleanExpression).Presses here here.offset := by
  have term : (Phrase.ref .booleanTerm).Reports :=
    Phrase.reports_ref fun _ other => by cases other
  have connective : (kw .or).Reports := Phrase.reports_ref fun _ other => by cases other
  refine .phrase rfl ?_
  rintro (_ | depth) before
  · trivial
  · refine leaves_seq (fun last failed => term failed) (fun text nodes mid last found => ?_)
    have reached := (reaches_of_matchPhrase found).offset_le
    exact ((connective.seq term).many mid.skip depth last).imp
      fun _ late => Nat.le_trans reached (Nat.le_trans mid.offset_le_skip late)

theorem dropWhile_brackets (count : Nat) (rest : List Char) :
    ∃ rest', (List.replicate count '(' ++ rest).dropWhile isBlank
      = List.replicate count '(' ++ rest' := by
  cases count with
  | zero => exact ⟨rest.dropWhile isBlank, rfl⟩
  | succ count => exact ⟨rest, List.dropWhile_cons_of_neg (by decide)⟩

/-- An expression in front of which brackets stand is tried behind all of them. -/
theorem presses_brackets {count : Nat} {rest : List Char}
    (opened : here.rest = List.replicate count '(' ++ rest) :
    (Phrase.ref .booleanExpression).Presses here (here.offset + count) := by
  induction count generalizing here rest with
  | zero => exact presses_booleanExpression here
  | succ count ih =>
      rw [List.replicate_succ, List.cons_append] at opened
      have shows := shows_symbol (show isBlank '(' = false from rfl)
        (List.replicate count '(' ++ rest)
      rw [← opened] at shows
      let behind : Cursor := here.advance ['('] (List.replicate count '(' ++ rest)
      obtain ⟨rest', skipped⟩ := dropWhile_brackets count rest
      have inner : (Phrase.ref .booleanExpression).Presses behind.skip
          (here.offset + (count + 1)) := by
        have late : here.offset + 1 ≤ behind.skip.offset := behind.offset_le_skip
        exact Phrase.Presses.mono (@ih behind.skip rest' skipped) (by omega)
      have bracket : (bracketed (.ref .booleanExpression)).Presses here
          (here.offset + (count + 1)) := by
        have given := Phrase.gives_symbol '(' (List.replicate count '(' ++ rest)
        rw [← opened] at given
        exact .seq_first (.seq_second given.at (Cursor.reaches_advance opened) inner) rfl
      have primary : (Phrase.ref .booleanPrimary).Presses here (here.offset + (count + 1)) :=
        .phrase rfl (.alt_second (shows.fails rfl) (.alt_second (shows.fails rfl)
          (.alt_first bracket rfl)))
      have factor : (Phrase.ref .booleanFactor).Presses here (here.offset + (count + 1)) := by
        refine .phrase rfl (.seq_second (Phrase.Fails.opt (shows.fails rfl)).at (.refl here) ?_)
        rwa [Cursor.skip_eq_self shows.settled]
      have term : (Phrase.ref .booleanTerm).Presses here (here.offset + (count + 1)) :=
        .phrase rfl (.seq_first factor rfl)
      exact .phrase rfl (.seq_first term rfl)

/-- A filter is tried behind the blanks and the brackets in front of it. -/
theorem presses_cqlFilter {count : Nat} {text rest : List Char}
    (opened : text = List.replicate count '(' ++ rest) :
    (Phrase.ref .cqlFilter).Presses ⟨0, text⟩ ((⟨0, text⟩ : Cursor).skip.offset + count) := by
  obtain ⟨rest', skipped⟩ := dropWhile_brackets count rest
  rw [← opened] at skipped
  have expression : (Phrase.ref .booleanExpression).Presses (⟨0, text⟩ : Cursor).skip _ :=
    presses_brackets skipped
  exact .phrase rfl (.seq_first (.seq_second (Phrase.givesAt_start text) (.refl _) expression) rfl)

/-! ## The place of a failure -/

/-- The byte is a place of the text where no blank stands. -/
def IsVisible (whole : List Char) (offset : Nat) : Prop :=
  ∃ front rest, whole = front ++ rest ∧ offset = byteSize front ∧
    ∀ c ∈ rest.head?, isBlank c = false

theorem isVisible_skip {whole : List Char} (inside : here.Within whole) :
    IsVisible whole here.skip.offset := by
  obtain ⟨front, split, place⟩ := inside.reach (reaches_blanks here)
  refine ⟨front, here.skip.rest, split, place, fun c first => ?_⟩
  have visible := List.head?_dropWhile_not isBlank here.rest
  rw [show (here.rest.dropWhile isBlank).head? = some c from first] at visible
  exact visible

/-- Rules are tried at the start of the text and where no blank stands. -/
theorem leaves_isVisible (depth : Nat) (rule : Rule) (whole : List Char) :
    (matchPhrase depth (.ref rule) ⟨0, whole⟩ {}).Leaves
      fun offset => offset = 0 ∨ IsVisible whole offset := by
  have kept : Kept (Cursor.Within whole) (fun here => here.offset = 0 ∨ IsVisible whole here.offset)
      fun offset => offset = 0 ∨ IsVisible whole offset :=
    .of_places (fun inside reaches => inside.reach reaches)
      (fun inside => .inr (isVisible_skip inside)) fun _ settled => settled
  exact kept.leaves rfl ⟨[], rfl, rfl⟩ (fun _ => .inl rfl) (.inl rfl)

/-- A text is refused at a place where no blank stands, behind all brackets in front of it. -/
theorem isVisible_of_parse {count : Nat} {text rest : List Char} {frontier : Frontier}
    (opened : text = List.replicate count '(' ++ rest)
    (refused : parse .cqlFilter text = .error frontier) :
    IsVisible text frontier.offset ∧ count ≤ frontier.offset := by
  unfold parse at refused
  split at refused
  · cases refused
  · next failed =>
      cases refused
      have pressed := presses_cqlFilter opened (depthPerCharacter * (text.length + 1)) {}
      have visible :=
        leaves_isVisible (depthPerCharacter * (text.length + 1)) .cqlFilter text
      rw [failed] at pressed visible
      have pressed : (⟨0, text⟩ : Cursor).skip.offset + count ≤ frontier.offset := pressed
      refine ⟨?_, by omega⟩
      rcases visible with start | visible
      · rw [show frontier.offset = (⟨0, text⟩ : Cursor).skip.offset by omega]
        exact isVisible_skip ⟨[], rfl, rfl⟩
      · exact visible
  · next ended => exact absurd ended (parse_ne_exhausted _ _)

end Cql.Grammar
