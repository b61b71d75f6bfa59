import Cql.Grammar.Matching

/-!
# The steps of a match

What a phrase comes to at a place follows from what its parts come to, with one level of recursion
less. All ways in which that can happen are listed here once. A fact about every match is then
proved by induction on the depth, with one case for each of them. Where the depth does not matter, a
phrase that was matched stands between two places of the text, and its parts stand between places in
between.
-/

namespace Cql.Grammar

def Cursor.skip (here : Cursor) : Cursor :=
  here.advance (here.rest.takeWhile isBlank) (here.rest.dropWhile isBlank)

theorem Cursor.reaches_skip (here : Cursor) :
    here.Reaches (here.rest.takeWhile isBlank) here.skip :=
  reaches_blanks here

/-- What a phrase may come to at a place, if `depth` levels of recursion are left for its parts. A
match that is cut short by the bound on the depth is not explained any further. -/
inductive MatchStep (depth : Nat) : Phrase → Cursor → Frontier → Outcome → Prop where
  | start {here : Cursor} {before : Frontier} (first : here.offset = 0) :
      MatchStep depth .start here before (.matched [] [] here before)
  | startFails {here : Cursor} {before : Frontier} (later : here.offset ≠ 0) :
      MatchStep depth .start here before (.failed before)
  | symbol {mark : Char} {cs : List Char} {here : Cursor} {before : Frontier}
      (whole : here.rest = mark :: cs) :
      MatchStep depth (.symbol mark) here before
        (.matched [mark] [] (here.advance [mark] cs) before)
  | symbolFails {mark : Char} {here : Cursor} {before : Frontier}
      (other : ∀ cs, here.rest ≠ mark :: cs) :
      MatchStep depth (.symbol mark) here before (.failed before)
  | text {pattern : Pattern} {text : List Char} {here stop : Cursor} {before : Frontier}
      (taken : matchPattern pattern here = some (text, stop)) :
      MatchStep depth (.text pattern) here before (.matched text [] stop before)
  | textFails {pattern : Pattern} {here : Cursor} {before : Frontier}
      (fails : matchPattern pattern here = none) :
      MatchStep depth (.text pattern) here before (.failed before)
  | token {rule : Rule} {pattern : Pattern} {text : List Char} {here stop : Cursor}
      {before : Frontier} (defined : definition rule = .token pattern)
      (taken : matchPattern pattern here = some (text, stop)) :
      MatchStep depth (.ref rule) here before
        (.matched text [⟨rule, here.offset, String.ofList text, []⟩] stop before)
  | tokenFails {rule : Rule} {pattern : Pattern} {here : Cursor} {before : Frontier}
      (defined : definition rule = .token pattern) (fails : matchPattern pattern here = none) :
      MatchStep depth (.ref rule) here before (.failed (before.note before here.offset rule))
  | fragment {rule : Rule} {body : Phrase} {here : Cursor} {before : Frontier} {outcome : Outcome}
      (defined : definition rule = .fragment body)
      (inner : matchPhrase depth body here before = outcome) :
      MatchStep depth (.ref rule) here before outcome
  | phrase {rule : Rule} {body : Phrase} {text : List Char} {nodes : List Node}
      {here stop : Cursor} {before after : Frontier} (defined : definition rule = .phrase body)
      (inner : matchPhrase depth body here before = .matched text nodes stop after) :
      MatchStep depth (.ref rule) here before
        (.matched text [⟨rule, here.offset, String.ofList text, nodes⟩] stop after)
  | phraseFails {rule : Rule} {body : Phrase} {here : Cursor} {before after : Frontier}
      (defined : definition rule = .phrase body)
      (inner : matchPhrase depth body here before = .failed after) :
      MatchStep depth (.ref rule) here before (.failed (before.note after here.offset rule))
  | seq {first second : Phrase} {text text' : List Char} {nodes nodes' : List Node}
      {here mid stop : Cursor} {before between after : Frontier}
      (one : matchPhrase depth first here before = .matched text nodes mid between)
      (two : matchPhrase depth second mid.skip between = .matched text' nodes' stop after) :
      MatchStep depth (.seq first second) here before
        (.matched (text ++ mid.rest.takeWhile isBlank ++ text') (nodes ++ nodes') stop after)
  | seqFirst {first second : Phrase} {here : Cursor} {before after : Frontier}
      (one : matchPhrase depth first here before = .failed after) :
      MatchStep depth (.seq first second) here before (.failed after)
  | seqSecond {first second : Phrase} {text : List Char} {nodes : List Node} {here mid : Cursor}
      {before between after : Frontier}
      (one : matchPhrase depth first here before = .matched text nodes mid between)
      (two : matchPhrase depth second mid.skip between = .failed after) :
      MatchStep depth (.seq first second) here before (.failed after)
  | join {first second : Phrase} {text text' : List Char} {nodes nodes' : List Node}
      {here mid stop : Cursor} {before between after : Frontier}
      (one : matchPhrase depth first here before = .matched text nodes mid between)
      (two : matchPhrase depth second mid between = .matched text' nodes' stop after) :
      MatchStep depth (.join first second) here before
        (.matched (text ++ text') (nodes ++ nodes') stop after)
  | joinFirst {first second : Phrase} {here : Cursor} {before after : Frontier}
      (one : matchPhrase depth first here before = .failed after) :
      MatchStep depth (.join first second) here before (.failed after)
  | joinSecond {first second : Phrase} {text : List Char} {nodes : List Node} {here mid : Cursor}
      {before between after : Frontier}
      (one : matchPhrase depth first here before = .matched text nodes mid between)
      (two : matchPhrase depth second mid between = .failed after) :
      MatchStep depth (.join first second) here before (.failed after)
  | altFirst {first second : Phrase} {text : List Char} {nodes : List Node} {here stop : Cursor}
      {before after : Frontier}
      (one : matchPhrase depth first here before = .matched text nodes stop after) :
      MatchStep depth (.alt first second) here before (.matched text nodes stop after)
  | altSecond {first second : Phrase} {here : Cursor} {before between : Frontier}
      {outcome : Outcome} (one : matchPhrase depth first here before = .failed between)
      (two : matchPhrase depth second here between = outcome) :
      MatchStep depth (.alt first second) here before outcome
  | optSome {inner : Phrase} {text : List Char} {nodes : List Node} {here stop : Cursor}
      {before after : Frontier}
      (one : matchPhrase depth inner here before = .matched text nodes stop after) :
      MatchStep depth (.opt inner) here before (.matched text nodes stop after)
  | optNone {inner : Phrase} {here : Cursor} {before after : Frontier}
      (one : matchPhrase depth inner here before = .failed after) :
      MatchStep depth (.opt inner) here before (.matched [] [] here after)
  | againMore {inner : Phrase} {text text' : List Char} {nodes nodes' : List Node}
      {here mid stop : Cursor} {before between after : Frontier}
      (one : matchPhrase depth inner here.skip before = .matched text nodes mid between)
      (more : matchPhrase depth (.again inner) mid between = .matched text' nodes' stop after) :
      MatchStep depth (.again inner) here before
        (.matched (here.rest.takeWhile isBlank ++ text ++ text') (nodes ++ nodes') stop after)
  | againNone {inner : Phrase} {here : Cursor} {before after : Frontier}
      (one : matchPhrase depth inner here.skip before = .failed after) :
      MatchStep depth (.again inner) here before (.matched [] [] here after)
  | cut {phrase : Phrase} {here : Cursor} {before : Frontier} :
      MatchStep depth phrase here before .exhausted

variable {depth : Nat} {phrase : Phrase} {here stop : Cursor} {before after : Frontier}
  {text : List Char} {nodes : List Node} {outcome : Outcome}

/-- A repetition may take nothing, but it does not fail. -/
theorem again_ne_failed {inner : Phrase} :
    matchPhrase depth (.again inner) here before ≠ .failed after := by
  induction depth generalizing here before with
  | zero =>
      intro failed
      cases failed
  | succ depth ih =>
      intro failed
      simp only [matchPhrase] at failed
      split at failed
      · split at failed
        · cases failed
        · exact ih failed
      · cases failed
      · cases failed

/-- Every match is explained by a step. -/
theorem matchStep_of_matchPhrase (found : matchPhrase (depth + 1) phrase here before = outcome) :
    MatchStep depth phrase here before outcome := by
  subst found
  cases phrase with
  | start =>
      simp only [matchPhrase]
      split
      · next first => exact .start first
      · next later => exact .startFails later
  | symbol mark =>
      simp only [matchPhrase]
      split
      · next empty => exact .symbolFails fun cs whole => by cases empty.symm.trans whole
      · next c cs whole =>
          split
          · next same =>
              obtain rfl := eq_of_beq same
              exact .symbol whole
          · next differs =>
              refine .symbolFails fun cs' whole' => differs ?_
              rw [(List.cons.inj (whole.symm.trans whole')).1]
              exact BEq.rfl
  | text pattern =>
      simp only [matchPhrase]
      split
      · next taken => exact .text taken
      · next fails => exact .textFails fails
  | ref rule =>
      simp only [matchPhrase]
      split
      · next defined =>
          split
          · next taken => exact .token defined taken
          · next fails => exact .tokenFails defined fails
      · next defined => exact .fragment defined rfl
      · next defined =>
          split
          · next inner => exact .phrase defined inner
          · next inner => exact .phraseFails defined inner
          · exact .cut
  | seq first second =>
      rw [matchPhrase]
      cases one : matchPhrase depth first here before with
      | exhausted => exact .cut
      | failed after => exact .seqFirst one
      | matched text nodes mid between =>
          dsimp only
          cases two : matchPhrase depth second (mid.advance (mid.rest.takeWhile isBlank)
            (mid.rest.dropWhile isBlank)) between with
          | exhausted => exact .cut
          | failed after => exact .seqSecond one two
          | matched text' nodes' stop after => exact .seq one two
  | join first second =>
      rw [matchPhrase]
      cases one : matchPhrase depth first here before with
      | exhausted => exact .cut
      | failed after => exact .joinFirst one
      | matched text nodes mid between =>
          dsimp only
          cases two : matchPhrase depth second mid between with
          | exhausted => exact .cut
          | failed after => exact .joinSecond one two
          | matched text' nodes' stop after => exact .join one two
  | alt first second =>
      rw [matchPhrase]
      cases one : matchPhrase depth first here before with
      | exhausted => exact .cut
      | failed between => exact .altSecond one rfl
      | matched text nodes stop after => exact .altFirst one
  | opt inner =>
      rw [matchPhrase]
      cases one : matchPhrase depth inner here before with
      | exhausted => exact .cut
      | failed after => exact .optNone one
      | matched text nodes stop after => exact .optSome one
  | again inner =>
      rw [matchPhrase]
      cases one : matchPhrase depth inner (here.advance (here.rest.takeWhile isBlank)
        (here.rest.dropWhile isBlank)) before with
      | exhausted => exact .cut
      | failed after => exact .againNone one
      | matched text nodes mid between =>
          dsimp only
          cases more : matchPhrase depth (.again inner) mid between with
          | exhausted => exact .cut
          | failed after => exact absurd more again_ne_failed
          | matched text' nodes' stop after => exact .againMore one more

/-- The same where the levels of recursion do not matter. -/
theorem exists_matchStep (found : matchPhrase depth phrase here before = outcome) :
    ∃ less, MatchStep less phrase here before outcome := by
  cases depth with
  | zero =>
      subst found
      exact ⟨0, .cut⟩
  | succ depth => exact ⟨depth, matchStep_of_matchPhrase found⟩

/-- A phrase reaches over the text that it took. -/
theorem reaches_of_matchPhrase
    (found : matchPhrase depth phrase here before = .matched text nodes stop after) :
    here.Reaches text stop := by
  induction depth generalizing phrase here stop before after text nodes with
  | zero => cases found
  | succ depth ih =>
      cases matchStep_of_matchPhrase found with
      | start => exact .refl here
      | symbol whole => exact Cursor.reaches_advance whole
      | text taken => exact reaches_of_matchPattern taken
      | token _ taken => exact reaches_of_matchPattern taken
      | fragment _ inner => exact ih inner
      | phrase _ inner => exact ih inner
      | seq one two => exact ((ih one).trans (Cursor.reaches_skip _)).trans (ih two)
      | join one two => exact (ih one).trans (ih two)
      | altFirst one => exact ih one
      | altSecond _ two => exact ih two
      | optSome one => exact ih one
      | optNone => exact .refl here
      | againMore one more => exact (here.reaches_skip.trans (ih one)).trans (ih more)
      | againNone => exact .refl here

/-! ## Phrases between two places -/

/-- The phrase stands between the two places, and the nodes were made for it. -/
def Phrase.Spans (phrase : Phrase) (here : Cursor) (nodes : List Node) (stop : Cursor) : Prop :=
  ∃ depth before text after, matchPhrase depth phrase here before = .matched text nodes stop after

/-- A rule that is found at the start of a text stands between two places of the text. -/
theorem exists_spans_of_parse {rule : Rule} (found : parse rule text = .ok nodes) :
    ∃ stop, (Phrase.ref rule).Spans ⟨0, text⟩ nodes stop := by
  unfold parse at found
  split at found
  · next matched =>
      cases found
      exact ⟨_, _, _, _, _, matched⟩
  · cases found
  · cases found

namespace Phrase.Spans

variable {rule : Rule} {body first second inner : Phrase}

theorem step (spans : body.Spans here nodes stop) :
    ∃ depth before text after,
      MatchStep depth body here before (.matched text nodes stop after) := by
  obtain ⟨_, before, text, after, found⟩ := spans
  obtain ⟨depth, step⟩ := exists_matchStep found
  exact ⟨depth, before, text, after, step⟩

theorem start (spans : Phrase.start.Spans here nodes stop) : nodes = [] ∧ stop = here := by
  obtain ⟨_, _, _, _, step⟩ := spans.step
  cases step with
  | start _ => exact ⟨rfl, rfl⟩

theorem symbol {mark : Char} (spans : (Phrase.symbol mark).Spans here nodes stop) :
    nodes = [] ∧ here.Reaches [mark] stop := by
  obtain ⟨_, _, _, _, step⟩ := spans.step
  cases step with
  | symbol whole => exact ⟨rfl, Cursor.reaches_advance whole⟩

/-- A rule makes one node, and the nodes of its phrase stand where it does. -/
theorem branch (spans : (ref rule).Spans here nodes stop)
    (defined : definition rule = .phrase body) :
    ∃ text children, nodes = [⟨rule, here.offset, text, children⟩] ∧
      body.Spans here children stop := by
  obtain ⟨_, _, _, _, step⟩ := spans.step
  cases step with
  | phrase defined' inner =>
      cases defined.symm.trans defined'
      exact ⟨_, _, rfl, _, _, _, _, inner⟩
  | token defined' _ => cases defined.symm.trans defined'
  | fragment defined' _ => cases defined.symm.trans defined'

theorem seq (spans : (Phrase.seq first second).Spans here nodes stop) :
    ∃ mid front back, first.Spans here front mid ∧ second.Spans mid.skip back stop ∧
      nodes = front ++ back := by
  obtain ⟨_, _, _, _, step⟩ := spans.step
  cases step with
  | seq one two => exact ⟨_, _, _, ⟨_, _, _, _, one⟩, ⟨_, _, _, _, two⟩, rfl⟩

theorem alt (spans : (Phrase.alt first second).Spans here nodes stop) :
    first.Spans here nodes stop ∨ second.Spans here nodes stop := by
  obtain ⟨_, _, _, _, step⟩ := spans.step
  cases step with
  | altFirst one => exact .inl ⟨_, _, _, _, one⟩
  | altSecond _ two => exact .inr ⟨_, _, _, _, two⟩

theorem opt (spans : (Phrase.opt inner).Spans here nodes stop) :
    inner.Spans here nodes stop ∨ nodes = [] ∧ stop = here := by
  obtain ⟨_, _, _, _, step⟩ := spans.step
  cases step with
  | optSome one => exact .inl ⟨_, _, _, _, one⟩
  | optNone _ => exact .inr ⟨rfl, rfl⟩

end Phrase.Spans

end Cql.Grammar
