import Mathlib.Data.List.DropRight
import Cql.Proofs.Grammar.BracketBalance
import Cql.Proofs.Grammar.FrontierPlace
import Cql.Proofs.Grammar.Relayout

/-!
# Reading a text up to a place

What a phrase is made of between two places of a text can be read from the first place to the
second. Which texts a phrase can be read from is a question of the text alone, so that parts that
stand behind each other in one text can be read from another one that ends alike.
-/

namespace Cql.Grammar

open Cql.Text

/-- From the front of the text the phrase is read up to the place, or up to blanks around it. -/
def Phrase.EndsAt (phrase : Phrase) (cs : List Char) (stop : Cursor) : Prop :=
  ∃ outlines left, phrase.Gives cs outlines left ∧
    left.dropWhile isBlank = stop.rest.dropWhile isBlank

variable {rule : Rule} {body first second inner : Phrase} {here mid stop : Cursor}
  {nodes : List Node} {cs : List Char}

/-! ## The parts of a phrase -/

namespace Phrase.Spans

/-- The children of a node stand where the node does. -/
theorem phrase {node : Node} (spans : (ref rule).Spans here [node] stop)
    (defined : definition rule = .phrase body) : body.Spans here node.children stop := by
  obtain ⟨_, _, same, inside⟩ := spans.branch defined
  cases same
  exact inside

/-- A rule makes one node, which ends where the rule does, and closes all brackets that it opens. -/
theorem node (spans : (ref rule).Spans here nodes stop) (lexed : (ref rule).isLexed = true) :
    ∃ node, nodes = [node] ∧ node.rule = rule ∧ node.stop = stop.offset ∧
      ∃ text, here.Reaches text stop ∧ Deepens text 0 := by
  obtain ⟨depth, before, text, after, found⟩ := spans
  have reached := reaches_of_matchPhrase found
  have derived := derives_of_matchPhrase found
  have ends (children : List Node) :
      (⟨rule, here.offset, String.ofList text, children⟩ : Node).stop = stop.offset := by
    rw [Node.stop, reached.offset_eq, utf8ByteSize_ofList]
  have level : ∃ text, here.Reaches text stop ∧ Deepens text 0 :=
    ⟨text, reached, derived.deepens lexed⟩
  cases derived with
  | token defined taken => exact ⟨_, rfl, rfl, ends [], level⟩
  | phrase defined inside => exact ⟨_, rfl, rfl, ends _, level⟩
  | fragment defined inside => simp [isLexed, defined] at lexed

/-- What stands between two places can be read from the first to the second. -/
theorem endsAt (spans : body.Spans here nodes stop) (spaced : body.isLoose = true) :
    body.EndsAt here.rest stop := by
  obtain ⟨_, _, _, _, found⟩ := spans
  obtain ⟨outlines, given⟩ := gives_of_matched found spaced
  exact ⟨outlines, stop.rest, given, rfl⟩

end Phrase.Spans

namespace Phrase.EndsAt

theorem seq (one : first.EndsAt cs mid) (two : second.EndsAt mid.skip.rest stop) :
    (Phrase.seq first second).EndsAt cs stop := by
  obtain ⟨outlines, left, given, same⟩ := one
  obtain ⟨outlines', left', given', same'⟩ := two
  refine ⟨outlines ++ outlines', left', given.seq ?_, same'⟩
  rw [same]
  exact given'

theorem phrase (inside : body.EndsAt cs stop) (defined : definition rule = .phrase body) :
    (ref rule).EndsAt cs stop := by
  obtain ⟨outlines, left, given, same⟩ := inside
  exact ⟨_, left, given.phrase defined, same⟩

theorem alt_second (inside : second.EndsAt cs stop) (fails : first.Fails cs) :
    (Phrase.alt first second).EndsAt cs stop := by
  obtain ⟨outlines, left, given, same⟩ := inside
  exact ⟨outlines, left, given.alt_second fails, same⟩

theorem alt_first (inside : first.EndsAt cs stop) : (Phrase.alt first second).EndsAt cs stop := by
  obtain ⟨outlines, left, given, same⟩ := inside
  exact ⟨outlines, left, given.alt_first, same⟩

end Phrase.EndsAt

/-! ## Repetitions -/

/-- Rounds of a phrase follow each other from the first place on, with blanks before each of them,
until there is no further round. -/
inductive Rounds (inner : Phrase) : Cursor → List Node → Cursor → Prop where
  | done {here stop : Cursor} (fails : inner.Fails here.skip.rest)
      (same : here.rest.dropWhile isBlank = stop.rest.dropWhile isBlank) : Rounds inner here [] stop
  | more {here mid stop : Cursor} {nodes others : List Node}
      (round : inner.Spans here.skip nodes mid) (rounds : Rounds inner mid others stop) :
      Rounds inner here (nodes ++ others) stop

theorem rounds_of_again {depth : Nat} {before after : Frontier} {text : List Char}
    (found : matchPhrase depth (.again inner) here before = .matched text nodes stop after)
    (spaced : inner.isLoose = true) : Rounds inner here nodes stop := by
  induction depth generalizing here before text nodes with
  | zero => cases found
  | succ depth ih =>
      cases matchStep_of_matchPhrase found with
      | againMore round later => exact .more ⟨_, _, _, _, round⟩ (ih later)
      | againNone failed => exact .done (fails_of_failed failed spaced) rfl

theorem Phrase.Spans.many (spans : (Phrase.many inner).Spans here.skip nodes stop)
    (spaced : inner.isLoose = true) : Rounds inner here nodes stop := by
  obtain ⟨_, _, _, _, step⟩ := spans.step
  cases step with
  | optSome one =>
      obtain ⟨_, step⟩ := exists_matchStep one
      cases step with
      | join round later => exact .more ⟨_, _, _, _, round⟩ (rounds_of_again later spaced)
  | optNone failed =>
      obtain ⟨_, step⟩ := exists_matchStep failed
      cases step with
      | joinFirst one =>
          exact .done (fails_of_failed one spaced) (List.dropWhile_idempotent _ _).symm
      | joinSecond _ later => exact absurd later again_ne_failed

namespace Rounds

theorem endsAt_again (rounds : Rounds inner here nodes stop) (spaced : inner.isLoose = true) :
    (Phrase.again inner).EndsAt here.rest stop := by
  induction rounds with
  | done fails same => exact ⟨[], _, fails.again, same⟩
  | more round _ ih =>
      obtain ⟨depth, _, _, _, found⟩ := round
      obtain ⟨outlines, given⟩ := gives_of_matched found spaced
      obtain ⟨others, left, more, same⟩ := ih
      exact ⟨outlines ++ others, left, given.again more, same⟩

/-- The rounds can be read from the place behind the blanks. -/
theorem endsAt (rounds : Rounds inner here nodes stop) (spaced : inner.isLoose = true) :
    (Phrase.many inner).EndsAt here.skip.rest stop := by
  cases rounds with
  | done fails same =>
      refine ⟨[], _, Phrase.Fails.opt fails.join_first, ?_⟩
      exact (List.dropWhile_idempotent _ _).trans same
  | more round rounds =>
      obtain ⟨depth, _, _, _, found⟩ := round
      obtain ⟨outlines, given⟩ := gives_of_matched found spaced
      obtain ⟨others, left, more, same⟩ := rounds.endsAt_again spaced
      exact ⟨outlines ++ others, left, (given.join more).opt, same⟩

end Rounds

/-! ## Whole filters -/

/-- A filter is a condition from the first place of the text to the last. -/
theorem spans_of_parse {text : List Char} {tree : Node}
    (found : parse .cqlFilter text = .ok [tree]) :
    ∃ condition ending stop last, tree.children = [condition, ending] ∧
      ending.rule = .endOfInput ∧
      (Phrase.ref .booleanExpression).Spans (Cursor.skip ⟨0, text⟩) [condition] stop ∧
      (Phrase.ref .endOfInput).Spans stop.skip [ending] last := by
  obtain ⟨last, spans⟩ := exists_spans_of_parse found
  obtain ⟨_, stop, _, _, whole, expression, final⟩ := spans.filter
  cases whole
  obtain ⟨condition, rfl, _⟩ := expression.node rfl
  obtain ⟨ending, rfl, kind, _⟩ := final.node rfl
  exact ⟨condition, ending, stop, last, rfl, kind, expression, final⟩

/-- A condition that is read up to the place where the text is found to end makes a filter. -/
theorem exists_parse_of_endsAt {text : List Char}
    (condition : (Phrase.ref .booleanExpression).EndsAt (text.dropWhile isBlank) mid)
    (ending : (Phrase.ref .endOfInput).EndsAt mid.skip.rest stop) :
    ∃ tree, parse .cqlFilter text = .ok [tree] := by
  obtain ⟨outlines, left, given, same⟩ := condition
  obtain ⟨outlines', left', given', _⟩ := ending
  have final : (Phrase.ref .endOfInput).Gives (left.dropWhile isBlank) outlines' left' := by
    rw [same]
    exact given'
  have body := ((Phrase.givesAt_start text).seq given).seq final
  have whole : (Phrase.ref .cqlFilter).GivesAt ⟨0, text⟩ _ left' := body.phrase rfl
  obtain ⟨tree, found, _⟩ := exists_parse_of_givesAt whole
  exact ⟨tree, found⟩

end Cql.Grammar
