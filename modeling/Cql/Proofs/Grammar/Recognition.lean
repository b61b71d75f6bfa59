import Cql.Proofs.Grammar.Depth

/-!
# What a phrase gives and where it fails

A match carries offsets, texts of phrases, the failure frontier and a bound on the depth along.
Whether a phrase stands at a text, where it ends and which rules and tokens it is made of depends on
none of them. Each kind of phrase has its laws for that: when it gives an outline, and when it
fails.
-/

namespace Cql

open Cql.Grammar

/-- A syntax tree without places: the rules and, at the leaves, the texts of tokens. -/
inductive Outline where
  | leaf (rule : Rule) (text : String)
  | branch (rule : Rule) (children : List Outline)

namespace Node

mutual

def outline : Node → Outline
  | ⟨rule, _, text, children⟩ =>
      match definition rule with
      | .token _ => .leaf rule text
      | _ => .branch rule (outlineAll children)

def outlineAll : List Node → List Outline
  | [] => []
  | node :: nodes => outline node :: outlineAll nodes

end

theorem outlineAll_append (nodes others : List Node) :
    outlineAll (nodes ++ others) = outlineAll nodes ++ outlineAll others := by
  induction nodes with
  | nil => rfl
  | cons node nodes ih => rw [List.cons_append, outlineAll, outlineAll, ih, List.cons_append]

end Node

namespace Grammar

def Outcome.Failed : Outcome → Prop
  | .failed _ | .exhausted => True
  | .matched _ _ _ _ => False

/-- The match made nodes of the given outlines and left the given text, unless the bound on the
depth cut it short. -/
def Outcome.Made (outlines : List Outline) (left : List Char) : Outcome → Prop
  | .matched _ nodes stop _ => Node.outlineAll nodes = outlines ∧ stop.rest = left
  | .exhausted => True
  | .failed _ => False

namespace Phrase

/-- The phrase does not stand at the beginning of the text. -/
def Fails (phrase : Phrase) (cs : List Char) : Prop :=
  ∀ depth here frontier, here.rest = cs → (matchPhrase depth phrase here frontier).Failed

/-- The phrase stands at the beginning of the text, is made of the given outlines, and leaves the
given text. -/
def Gives (phrase : Phrase) (cs : List Char) (outlines : List Outline) (left : List Char) : Prop :=
  ∀ depth here frontier, here.rest = cs →
    (matchPhrase depth phrase here frontier).Made outlines left

def GivesAt (phrase : Phrase) (here : Cursor) (outlines : List Outline) (left : List Char) : Prop :=
  ∀ depth frontier, (matchPhrase depth phrase here frontier).Made outlines left

variable {first second inner : Phrase} {cs mid left : List Char}
  {outlines others : List Outline} {depth : Nat} {here stop : Cursor} {before after : Frontier}
  {text : List Char} {nodes : List Node}

theorem Gives.at (given : first.Gives here.rest outlines left) : first.GivesAt here outlines left :=
  fun depth frontier => given depth here frontier rfl

theorem Fails.not_matched (fails : inner.Fails here.rest)
    (found : matchPhrase depth inner here before = .matched text nodes stop after) : False := by
  have failed := fails depth here before rfl
  rw [found] at failed
  exact failed

theorem GivesAt.made (given : inner.GivesAt here outlines left)
    (found : matchPhrase depth inner here before = .matched text nodes stop after) :
    Node.outlineAll nodes = outlines ∧ stop.rest = left := by
  have made := given depth before
  rw [found] at made
  exact made

theorem GivesAt.not_failed (given : inner.GivesAt here outlines left)
    (failed : matchPhrase depth inner here before = .failed after) : False := by
  have made := given depth before
  rw [failed] at made
  exact made

theorem fails_of_step
    (other : ∀ {depth : Nat} {here stop : Cursor} {before after : Frontier} {text : List Char}
      {nodes : List Node}, here.rest = cs →
        ¬MatchStep depth inner here before (.matched text nodes stop after)) :
    inner.Fails cs := by
  intro depth here before whole
  cases found : matchPhrase depth inner here before with
  | matched text nodes stop after =>
      obtain ⟨_, step⟩ := exists_matchStep found
      exact other whole step
  | failed after => trivial
  | exhausted => trivial

theorem givesAt_of_step
    (made : ∀ {depth : Nat} {before : Frontier} {outcome : Outcome},
      MatchStep depth inner here before outcome → outcome.Made outlines left) :
    inner.GivesAt here outlines left := by
  intro depth before
  obtain ⟨_, step⟩ := exists_matchStep (Eq.refl (matchPhrase depth inner here before))
  exact made step

theorem gives_of_step
    (made : ∀ {depth : Nat} {here : Cursor} {before : Frontier} {outcome : Outcome},
      here.rest = cs → MatchStep depth inner here before outcome → outcome.Made outlines left) :
    inner.Gives cs outlines left :=
  fun depth _ before whole => givesAt_of_step (made whole) depth before

/-! ## Tokens and rules -/

theorem givesAt_start (cs : List Char) : Phrase.start.GivesAt ⟨0, cs⟩ [] cs := by
  refine givesAt_of_step fun step => ?_
  cases step with
  | cut => trivial
  | start _ => exact ⟨rfl, rfl⟩
  | startFails later => exact later rfl

theorem gives_symbol (mark : Char) (left : List Char) :
    (symbol mark).Gives (mark :: left) [] left := by
  refine gives_of_step fun whole step => ?_
  cases step with
  | cut => trivial
  | symbol whole' => exact ⟨rfl, (List.cons.inj (whole'.symm.trans whole)).2⟩
  | symbolFails other => exact other left whole

theorem fails_symbol {mark : Char} (other : ∀ rest, cs ≠ mark :: rest) :
    (symbol mark).Fails cs := by
  refine fails_of_step fun whole step => ?_
  cases step with
  | symbol whole' => exact other _ (whole.symm.trans whole')

theorem gives_token {rule : Rule} {pattern : Pattern} {text : List Char}
    (defined : definition rule = .token pattern) (found : pattern.scan cs = some (text, left)) :
    (ref rule).Gives cs [.leaf rule (String.ofList text)] left := by
  rintro (_ | depth) here frontier whole
  · trivial
  · simp only [matchPhrase, defined, matchPattern, whole, found, Option.map_some]
    refine ⟨?_, rfl⟩
    simp only [Node.outlineAll, Node.outline, defined]

theorem fails_token {rule : Rule} {pattern : Pattern} (defined : definition rule = .token pattern)
    (fails : pattern.scan cs = none) : (ref rule).Fails cs := by
  rintro (_ | depth) here frontier whole
  · trivial
  · simp only [matchPhrase, defined, matchPattern, whole, fails, Option.map_none]
    trivial

theorem GivesAt.phrase {rule : Rule} {body : Phrase} (defined : definition rule = .phrase body)
    (given : body.GivesAt here outlines left) :
    (ref rule).GivesAt here [.branch rule outlines] left := by
  rintro (_ | depth) frontier
  · trivial
  · simp only [matchPhrase, defined]
    cases found : matchPhrase depth body here frontier with
    | exhausted => trivial
    | failed after => exact given.not_failed found
    | matched text nodes stop after =>
        obtain ⟨same, rest⟩ := given.made found
        refine ⟨?_, rest⟩
        simp only [Node.outlineAll, Node.outline, defined, same]

theorem Gives.phrase {rule : Rule} {body : Phrase} (defined : definition rule = .phrase body)
    (given : body.Gives cs outlines left) : (ref rule).Gives cs [.branch rule outlines] left := by
  rintro depth here frontier rfl
  exact given.at.phrase defined depth frontier

theorem Fails.phrase {rule : Rule} {body : Phrase} (defined : definition rule = .phrase body)
    (fails : body.Fails cs) : (ref rule).Fails cs := by
  rintro (_ | depth) here frontier rfl
  · trivial
  · simp only [matchPhrase, defined]
    cases found : matchPhrase depth body here frontier with
    | matched text nodes stop after => exact fails.not_matched found
    | failed after => trivial
    | exhausted => trivial

/-! ## Sequences -/

theorem GivesAt.seq (one : first.GivesAt here outlines mid)
    (two : second.Gives (mid.dropWhile isBlank) others left) :
    (Phrase.seq first second).GivesAt here (outlines ++ others) left := by
  refine givesAt_of_step fun step => ?_
  cases step with
  | cut => trivial
  | seqFirst failed => exact one.not_failed failed
  | seqSecond found failed =>
      obtain ⟨_, rfl⟩ := one.made found
      exact two.at.not_failed failed
  | seq found next =>
      obtain ⟨rfl, rfl⟩ := one.made found
      obtain ⟨rfl, rest⟩ := two.at.made next
      exact ⟨Node.outlineAll_append _ _, rest⟩

theorem Gives.seq (one : first.Gives cs outlines mid)
    (two : second.Gives (mid.dropWhile isBlank) others left) :
    (Phrase.seq first second).Gives cs (outlines ++ others) left := by
  rintro depth here frontier rfl
  exact one.at.seq two depth frontier

theorem Fails.seq_first (fails : first.Fails cs) : (Phrase.seq first second).Fails cs := by
  refine fails_of_step fun whole step => ?_
  subst whole
  cases step with
  | seq found _ => exact fails.not_matched found

theorem Fails.seq_second (one : first.Gives cs outlines mid)
    (fails : second.Fails (mid.dropWhile isBlank)) : (Phrase.seq first second).Fails cs := by
  refine fails_of_step fun whole step => ?_
  subst whole
  cases step with
  | seq found next =>
      obtain ⟨_, rfl⟩ := one.at.made found
      exact fails.not_matched next

theorem Gives.join (one : first.Gives cs outlines mid) (two : second.Gives mid others left) :
    (Phrase.join first second).Gives cs (outlines ++ others) left := by
  refine gives_of_step fun whole step => ?_
  subst whole
  cases step with
  | cut => trivial
  | joinFirst failed => exact one.at.not_failed failed
  | joinSecond found failed =>
      obtain ⟨_, rfl⟩ := one.at.made found
      exact two.at.not_failed failed
  | join found next =>
      obtain ⟨rfl, rfl⟩ := one.at.made found
      obtain ⟨rfl, rest⟩ := two.at.made next
      exact ⟨Node.outlineAll_append _ _, rest⟩

theorem Fails.join_first (fails : first.Fails cs) : (Phrase.join first second).Fails cs := by
  refine fails_of_step fun whole step => ?_
  subst whole
  cases step with
  | join found _ => exact fails.not_matched found

theorem Fails.join_second (one : first.Gives cs outlines mid) (fails : second.Fails mid) :
    (Phrase.join first second).Fails cs := by
  refine fails_of_step fun whole step => ?_
  subst whole
  cases step with
  | join found next =>
      obtain ⟨_, rfl⟩ := one.at.made found
      exact fails.not_matched next

/-! ## Choices and repetitions -/

theorem Gives.alt_first (one : first.Gives cs outlines left) :
    (Phrase.alt first second).Gives cs outlines left := by
  refine gives_of_step fun whole step => ?_
  subst whole
  cases step with
  | cut => trivial
  | altFirst found => exact one.at.made found
  | altSecond failed _ => exact (one.at.not_failed failed).elim

theorem Gives.alt_second (fails : first.Fails cs) (two : second.Gives cs outlines left) :
    (Phrase.alt first second).Gives cs outlines left := by
  refine gives_of_step fun whole step => ?_
  subst whole
  cases step with
  | cut => trivial
  | altFirst found => exact (fails.not_matched found).elim
  | altSecond _ next =>
      subst next
      exact two.at _ _

theorem Fails.alt (one : first.Fails cs) (two : second.Fails cs) :
    (Phrase.alt first second).Fails cs := by
  refine fails_of_step fun whole step => ?_
  subst whole
  cases step with
  | altFirst found => exact one.not_matched found
  | altSecond _ found => exact two.not_matched found

theorem Gives.opt (one : inner.Gives cs outlines left) :
    (Phrase.opt inner).Gives cs outlines left := by
  refine gives_of_step fun whole step => ?_
  subst whole
  cases step with
  | cut => trivial
  | optSome found => exact one.at.made found
  | optNone failed => exact (one.at.not_failed failed).elim

theorem Fails.opt (fails : inner.Fails cs) : (Phrase.opt inner).Gives cs [] cs := by
  refine gives_of_step fun whole step => ?_
  subst whole
  cases step with
  | cut => trivial
  | optSome found => exact (fails.not_matched found).elim
  | optNone _ => exact ⟨rfl, rfl⟩

theorem Gives.again (one : inner.Gives (cs.dropWhile isBlank) outlines mid)
    (more : (Phrase.again inner).Gives mid others left) :
    (Phrase.again inner).Gives cs (outlines ++ others) left := by
  refine gives_of_step fun whole step => ?_
  subst whole
  cases step with
  | cut => trivial
  | againNone failed => exact (one.at.not_failed failed).elim
  | againMore found next =>
      obtain ⟨rfl, rfl⟩ := one.at.made found
      obtain ⟨rfl, rest⟩ := more.at.made next
      exact ⟨Node.outlineAll_append _ _, rest⟩

theorem Fails.again (fails : inner.Fails (cs.dropWhile isBlank)) :
    (Phrase.again inner).Gives cs [] cs := by
  refine gives_of_step fun whole step => ?_
  subst whole
  cases step with
  | cut => trivial
  | againMore found _ => exact (fails.not_matched found).elim
  | againNone _ => exact ⟨rfl, rfl⟩

end Phrase

/-- A rule that gives one outline at the start of a text is matched there, and the tree has that
outline. -/
theorem exists_parse_of_givesAt {rule : Rule} {text left : List Char} {outline : Outline}
    (given : (Phrase.ref rule).GivesAt ⟨0, text⟩ [outline] left) :
    ∃ tree, parse rule text = .ok [tree] ∧ tree.outline = outline := by
  rw [parse]
  cases found : matchPhrase (depthPerCharacter * (text.length + 1)) (.ref rule) ⟨0, text⟩ {} with
  | exhausted => exact absurd found (parse_ne_exhausted rule text)
  | failed after => exact (given.not_failed found).elim
  | matched _ nodes _ _ =>
      obtain ⟨same, _⟩ := given.made found
      cases nodes with
      | nil => cases same
      | cons tree others =>
          obtain ⟨first, rest⟩ := List.cons.inj same
          cases others with
          | nil => exact ⟨tree, rfl, first⟩
          | cons _ _ => cases rest

end Grammar

end Cql
