import Cql.Proofs.Filter.ErrorReport
import Cql.Proofs.Grammar.Span

/-!
# Correct tails

The conditions of a filter are joined by connectives at every level of its groups. Behind each of
these connectives the reading can resume: the part of the innermost chain that follows it is a chain
too, the groups around it are opened again, and what stood in front of them, be it a negation or
other conditions, is not missed. A tail of a filter without mistakes therefore has none either.
-/

namespace Cql

open Cql.Text Cql.Grammar

namespace Grammar

def connectiveOf? : Rule → Option Rule
  | .booleanExpression => some (.keyword .or)
  | .booleanTerm => some (.keyword .and)
  | _ => none

def conditionRules : List Rule :=
  [.cqlFilter, .booleanExpression, .booleanTerm, .booleanFactor, .booleanPrimary]

theorem mem_conditionRules {rule connective : Rule}
    (joins : connectiveOf? rule = some connective) : rule ∈ conditionRules := by
  unfold connectiveOf? at joins
  split at joins
  · decide
  · decide
  · cases joins

theorem mentions_definition (rule : Rule) :
    (conditionRules.contains rule || match definition rule with
      | .phrase body => body.mentions.all fun inner => !conditionRules.contains inner
      | _ => true) = true := by
  cases rule <;> rfl

end Grammar

namespace Node

/-- A connective that joins conditions in the tree ends at the byte. -/
def Connects (node : Node) (offset : Nat) : Prop :=
  ∃ parent ∈ node.preorder, ∃ connective ∈ parent.children,
    connectiveOf? parent.rule = some connective.rule ∧ connective.stop = offset

instance (node : Node) (offset : Nat) : Decidable (node.Connects offset) :=
  inferInstanceAs (Decidable (∃ parent ∈ node.preorder, ∃ connective ∈ parent.children, _))

variable {node : Node} {offset : Nat}

theorem connects_iff : node.Connects offset ↔ ∃ child ∈ node.children,
    (connectiveOf? node.rule = some child.rule ∧ child.stop = offset) ∨ child.Connects offset := by
  constructor
  · rintro ⟨parent, below, connective, among, joins⟩
    rcases mem_preorder.1 below with rfl | ⟨child, inside, below⟩
    · exact ⟨connective, among, .inl joins⟩
    · exact ⟨child, inside, .inr ⟨parent, below, connective, among, joins⟩⟩
  · rintro ⟨child, inside, joins | ⟨parent, below, connective, among, joins⟩⟩
    · exact ⟨node, node.self_mem_preorder, child, inside, joins⟩
    · exact ⟨parent, mem_preorder.2 (.inr ⟨child, inside, below⟩), connective, among, joins⟩

/-- Conditions are joined inside of such rules only. -/
theorem Formed.rule_of_connects (formed : node.Formed) (connects : node.Connects offset) :
    node.rule ∈ conditionRules := by
  induction formed with
  | token defined taken =>
      obtain ⟨child, among, _⟩ := connects_iff.1 connects
      cases among
  | @phrase rule body _ _ children defined spelled _ ih =>
      obtain ⟨child, among, ⟨joins, _⟩ | connects⟩ := connects_iff.1 connects
      · exact mem_conditionRules joins
      · have known := mentions_definition rule
        rw [defined] at known
        rcases Bool.or_eq_true_iff.1 known with listed | apart
        · exact List.contains_iff_mem.1 listed
        · have mentioned := Phrase.mem_mentions_of_spells spelled (List.mem_map_of_mem among)
          have unlisted := List.all_eq_true.1 apart _ mentioned
          rw [List.contains_iff_mem.2 (ih child among connects)] at unlisted
          cases unlisted

end Node

namespace Filter

variable {least offset : Nat} {first second : Phrase} {here mid stop : Cursor}

/-- Inside a phrase that stands between two places, the reading can resume at the byte: with the
brackets that are open there, and at least `least` of them, the phrase is read from there on. -/
def Resumes (least : Nat) (phrase : Phrase) (offset : Nat) (here stop : Cursor) : Prop :=
  ∃ front place depth, here.Reaches front place ∧ place.offset = offset ∧ Deepens front depth ∧
    least ≤ depth ∧
    phrase.EndsAt ((List.replicate depth '(' ++ place.rest).dropWhile isBlank) stop

namespace Resumes

/-- The reading resumes in the same way if more text with no open bracket stands in front. -/
theorem after (resumes : Resumes least first offset mid stop) {text : List Char}
    (reached : here.Reaches text mid) (level : Deepens text 0) :
    Resumes least first offset here stop := by
  obtain ⟨front, place, depth, reached', there, deepens, enough, ends⟩ := resumes
  refine ⟨text ++ front, place, depth, reached.trans reached', there, ?_, enough, ends⟩
  have both := level.append deepens
  rwa [Nat.zero_add] at both

theorem skip (resumes : Resumes least first offset here.skip stop) :
    Resumes least first offset here stop :=
  resumes.after (reaches_blanks here) (deepens_blanks isBlank_of_mem_takeWhile)

/-- Whatever can be read from where the first phrase is. -/
theorem imp (resumes : Resumes least first offset here mid)
    (reads : ∀ cs, first.EndsAt cs mid → second.EndsAt cs stop) :
    Resumes least second offset here stop := by
  obtain ⟨front, place, depth, reached, there, deepens, enough, ends⟩ := resumes
  exact ⟨front, place, depth, reached, there, deepens, enough, reads _ ends⟩

theorem imp_bracket (resumes : Resumes 1 first offset here mid)
    (reads : ∀ cs, first.EndsAt ('(' :: cs) mid → second.EndsAt ('(' :: cs) stop) :
    Resumes 0 second offset here stop := by
  obtain ⟨front, place, depth, reached, there, deepens, enough, ends⟩ := resumes
  refine ⟨front, place, depth, reached, there, deepens, Nat.zero_le depth, ?_⟩
  cases depth with
  | zero => cases enough
  | succ depth => exact reads _ ends

end Resumes

/-- Wherever the node was made for the rule, the reading can resume inside of it behind a connective
that ends at the byte. -/
def Resumable (least : Nat) (rule : Rule) (offset : Nat) (node : Node) : Prop :=
  ∀ ⦃here stop : Cursor⦄, (Phrase.ref rule).Spans here [node] stop → node.Connects offset →
    Resumes least (.ref rule) offset here stop

/-! ## Chains -/

/-- The rule describes items with a connective between each two. -/
structure IsChain (rule item : Rule) (word : Keyword) : Prop where
  defined : definition rule
    = .phrase (.seq (.ref item) (.many (.seq (.ref (.keyword word)) (.ref item))))
  joins : connectiveOf? rule = some (.keyword word)
  differs : item ≠ .keyword word
  lexed : (Phrase.ref item).isLexed = true
  spaced : (Phrase.ref item).isLoose = true

theorem isChain_booleanExpression : IsChain .booleanExpression .booleanTerm .or where
  defined := rfl
  joins := rfl
  differs := by decide
  lexed := rfl
  spaced := rfl

theorem isChain_booleanTerm : IsChain .booleanTerm .booleanFactor .and where
  defined := rfl
  joins := rfl
  differs := by decide
  lexed := rfl
  spaced := rfl

section Chain

variable {rule item : Rule} {word : Keyword} {nodes : List Node} {cs : List Char}

theorem IsChain.spaced_round (chain : IsChain rule item word) :
    (Phrase.seq (.ref (.keyword word)) (.ref item)).isLoose = true :=
  chain.spaced

theorem IsChain.endsAt (chain : IsChain rule item word) (front : (Phrase.ref item).EndsAt cs mid)
    (rounds : Rounds (.seq (.ref (.keyword word)) (.ref item)) mid nodes stop) :
    (Phrase.ref rule).EndsAt cs stop :=
  (front.seq (rounds.endsAt chain.spaced_round)).phrase chain.defined

/-- Behind a connective among the rounds of a chain, and behind one inside the items, the chain goes
on. -/
theorem IsChain.resumes_rounds (chain : IsChain rule item word)
    (rounds : Rounds (.seq (.ref (.keyword word)) (.ref item)) here nodes stop)
    (formed : ∀ child ∈ nodes, child.Formed)
    (inside : ∀ child ∈ nodes, Resumable 0 item offset child)
    (connects : ∃ child ∈ nodes,
      (child.rule = .keyword word ∧ child.stop = offset) ∨ child.Connects offset) :
    Resumes 0 (.ref rule) offset here stop := by
  induction rounds with
  | done fails same =>
      obtain ⟨child, among, _⟩ := connects
      cases among
  | @more here next stop _ others round rounds ih =>
      obtain ⟨mid, _, _, joined, follows, rfl⟩ := round.seq
      obtain ⟨connective, rfl, kind, ending, _, reached, level⟩ := joined.node rfl
      obtain ⟨part, rfl, made, _, _, reached', level'⟩ := follows.node chain.lexed
      simp only [List.cons_append, List.nil_append, List.forall_mem_cons, List.exists_mem_cons_iff]
        at formed inside connects
      refine Resumes.skip (Resumes.after ?_ reached level)
      rcases connects with (⟨_, there⟩ | connects) | (⟨joins, _⟩ | connects) | connects
      · exact ⟨[], mid, 0, .refl mid, ending.symm.trans there, fun _ => rfl, Nat.zero_le 0,
          chain.endsAt (follows.endsAt chain.spaced) rounds⟩
      · have listed := formed.1.rule_of_connects connects
        rw [kind] at listed
        exact absurd listed (by simp [conditionRules])
      · exact absurd (made.symm.trans joins) chain.differs
      · have resumes := inside.2.1 follows connects
        exact Resumes.skip (resumes.imp fun cs front => chain.endsAt front rounds)
      · have resumes := ih formed.2.2 inside.2.2 connects
        exact Resumes.skip (resumes.after reached' level')

/-- A chain can be resumed behind its connectives and wherever its items can. -/
theorem IsChain.resumable (chain : IsChain rule item word) {node : Node} (formed : node.Formed)
    (made : node.rule = rule) (inside : ∀ child ∈ node.children, Resumable 0 item offset child) :
    Resumable 0 rule offset node := by
  intro here stop spans connects
  obtain ⟨mid, _, others, front, back, whole⟩ := (spans.phrase chain.defined).seq
  obtain ⟨part, rfl, kind, _, _, reached, level⟩ := front.node chain.lexed
  have rounds := back.many chain.spaced_round
  have formed := formed.children
  have connects := Node.connects_iff.1 connects
  simp only [whole, made, chain.joins, Option.some.injEq, List.cons_append, List.nil_append,
    List.forall_mem_cons, List.exists_mem_cons_iff] at formed inside connects
  rcases connects with (⟨joins, _⟩ | connects) | connects
  · exact absurd (kind.symm.trans joins.symm) chain.differs
  · exact (inside.1 front connects).imp fun cs front => chain.endsAt front rounds
  · refine Resumes.after (chain.resumes_rounds rounds formed.2 inside.2 ?_) reached level
    obtain ⟨child, among, joins | inner⟩ := connects
    · exact ⟨child, among, .inl ⟨joins.1.symm, joins.2⟩⟩
    · exact ⟨child, among, .inr inner⟩

end Chain

/-! ## Negations and groups -/

variable {node : Node}

/-- A negation is not missed where a group is opened again. -/
theorem resumable_booleanFactor (formed : node.Formed) (made : node.rule = .booleanFactor)
    (inside : ∀ child ∈ node.children, Resumable 1 .booleanPrimary offset child) :
    Resumable 0 .booleanFactor offset node := by
  intro here stop spans connects
  obtain ⟨mid, before, _, negation, primary, whole⟩ := (spans.phrase rfl).seq
  obtain ⟨part, rfl, _⟩ := primary.node rfl
  obtain ⟨child, among, joins | connects⟩ := Node.connects_iff.1 connects
  · rw [made] at joins
    cases joins.1
  · have listed := (formed.children child among).rule_of_connects connects
    rw [whole] at among inside
    have front : ∃ text, here.Reaches text mid ∧ Deepens text 0 ∧ child = part := by
      rcases negation.opt with word | ⟨rfl, rfl⟩
      · obtain ⟨_, rfl, kind, _, text, reached, level⟩ := word.node rfl
        rcases List.mem_cons.1 among with rfl | other
        · rw [kind] at listed
          exact absurd listed (by decide)
        · exact ⟨text, reached, level, List.mem_singleton.1 other⟩
      · exact ⟨[], .refl _, fun _ => rfl, List.mem_singleton.1 among⟩
    obtain ⟨text, reached, level, rfl⟩ := front
    have resumes := inside child among primary connects
    refine Resumes.after (Resumes.skip (resumes.imp_bracket fun cs ends => ?_)) reached level
    have unnegated : (Phrase.opt (.ref (.keyword .not))).EndsAt ('(' :: cs) ⟨0, '(' :: cs⟩ :=
      ⟨[], _, Phrase.Fails.opt ((shows_symbol rfl cs).fails rfl), rfl⟩
    exact (unnegated.seq ends).phrase rfl

/-- A group around a connective is opened again. -/
theorem resumable_booleanPrimary (formed : node.Formed) (made : node.rule = .booleanPrimary)
    (inside : ∀ child ∈ node.children, Resumable 0 .booleanExpression offset child) :
    Resumable 1 .booleanPrimary offset node := by
  intro here stop spans connects
  obtain ⟨child, among, joins | connects⟩ := Node.connects_iff.1 connects
  · rw [made] at joins
    cases joins.1
  · have listed := (formed.children child among).rule_of_connects connects
    have other {rule : Rule} (lexed : (Phrase.ref rule).isLexed = true)
        (unlisted : rule ∉ conditionRules) :
        ¬ (Phrase.ref rule).Spans here node.children stop := by
      intro spans
      obtain ⟨part, single, kind, _⟩ := spans.node lexed
      rw [single] at among
      rw [List.mem_singleton.1 among, kind] at listed
      exact unlisted listed
    rcases (spans.phrase rfl).alt with predicate | rest
    · exact absurd predicate (other rfl (by decide))
    rcases rest.alt with literal | rest
    · exact absurd literal (other rfl (by decide))
    rcases rest.alt with group | function
    · obtain ⟨close, _, _, opened, closing, whole⟩ := group.seq
      obtain ⟨mid, _, _, opening, condition, rfl⟩ := opened.seq
      obtain ⟨rfl, bracket⟩ := opening.symbol
      obtain ⟨rfl, _⟩ := closing.symbol
      obtain ⟨part, rfl, _⟩ := condition.node rfl
      rw [whole] at among inside
      obtain rfl := List.mem_singleton.1 among
      obtain ⟨front, place, depth, reached, there, deepens, _, ends⟩ :=
        Resumes.skip (inside child among condition connects)
      have deeper : Deepens (['('] ++ front) (depth + 1) := by
        rw [Nat.add_comm]
        exact deepens_bracket.append deepens
      refine ⟨['('] ++ front, place, depth + 1, bracket.trans reached, there, deeper,
        Nat.le_add_left 1 depth, ?_⟩
      have again : (Phrase.symbol '(').EndsAt
          (List.replicate (depth + 1) '(' ++ place.rest)
          ⟨0, List.replicate depth '(' ++ place.rest⟩ :=
        ⟨[], _, Phrase.gives_symbol _ _, rfl⟩
      have shows := @shows_symbol '(' rfl (List.replicate depth '(' ++ place.rest)
      exact ((((again.seq ends).seq (closing.endsAt rfl)).alt_first.alt_second
        (shows.fails rfl)).alt_second (shows.fails rfl)).phrase rfl
    · exact absurd function (other rfl (by decide))

/-! ## Whole filters -/

/-- How many brackets are open at least where the reading resumes inside of the rule. -/
def bracketsAhead : Rule → Nat
  | .booleanPrimary => 1
  | _ => 0

/-- Every part of a filter can be resumed behind the connectives that join conditions in it. -/
theorem resumable_of_formed (formed : node.Formed) {rule : Rule} (made : node.rule = rule)
    (proper : rule ≠ .cqlFilter) : Resumable (bracketsAhead rule) rule offset node := by
  induction formed using Node.Formed.induction generalizing rule with
  | step node formed ih =>
      intro here stop spans connects
      have inside {item : Rule} (lexed : (Phrase.ref item).isLexed = true)
          (proper : item ≠ .cqlFilter) :
          ∀ child ∈ node.children, Resumable (bracketsAhead item) item offset child := by
        intro child among here stop spans
        obtain ⟨_, same, kind, _⟩ := spans.node lexed
        rw [← List.singleton_inj.1 same] at kind
        exact ih child among kind proper spans
      have listed := formed.rule_of_connects connects
      rw [made] at listed
      simp only [conditionRules, List.mem_cons, List.not_mem_nil, or_false] at listed
      rcases listed with rfl | rfl | rfl | rfl | rfl
      · exact absurd rfl proper
      · have items := inside rfl (show Rule.booleanTerm ≠ .cqlFilter by decide)
        exact isChain_booleanExpression.resumable formed made items spans connects
      · have items := inside rfl (show Rule.booleanFactor ≠ .cqlFilter by decide)
        exact isChain_booleanTerm.resumable formed made items spans connects
      · have primary := inside rfl (show Rule.booleanPrimary ≠ .cqlFilter by decide)
        exact resumable_booleanFactor formed made primary spans connects
      · have group := inside rfl (show Rule.booleanExpression ≠ .cqlFilter by decide)
        exact resumable_booleanPrimary formed made group spans connects

/-- The letters of a connective leave the number of open brackets as it is. -/
theorem passes_of_letters {word : List Char}
    (letters : word.map Char.toLower ∈ ["and".toList, "or".toList]) : Passes none word none := by
  refine .of_forall fun c among => .outside fun special => ?_
  have lower : c.toLower ∈ word.map Char.toLower := List.mem_map_of_mem among
  simp only [List.mem_cons, List.not_mem_nil, or_false] at letters special
  rcases letters with same | same
  all_goals
    rw [same] at lower
    rcases special with rfl | rfl | rfl | rfl <;> exact absurd lower (by decide)

/-- The reading resumes behind a part of the text, with the brackets that are open there. -/
theorem nesting_of_resumption {text : List Char} {start : Nat} {place : Resumption}
    (resumes : resumption text start = some place) :
    ∃ before, text = before ++ place.rest ∧ byteSize before = place.offset ∧
      before.foldl Nesting.step {} = ⟨none, place.depth⟩ := by
  obtain ⟨before, word, whole, _, found, there, nested, _⟩ := cases_of_resumptionFrom resumes
  obtain ⟨_, same, _, _, letters⟩ := eq_append_of_connective? found
  rw [← List.append_cancel_right same] at letters
  refine ⟨before ++ word, ?_, ?_, ?_⟩
  · rw [whole, List.append_assoc]
  · rw [there, byteSize_append, Nat.zero_add]
  · rw [List.foldl_append, nested, (passes_of_letters letters).foldl_eq]

/-- Inside of a filter, the reading can resume behind every connective that joins conditions. -/
theorem resumes_of_parse {text : List Char} {tree : Node}
    (found : Grammar.parse .cqlFilter text = .ok [tree]) (formed : tree.Formed)
    (made : tree.rule = .cqlFilter) (connects : tree.Connects offset) :
    ∃ stop, Resumes 0 (.ref .booleanExpression) offset ⟨0, text⟩ stop ∧
      ∃ last, (Phrase.ref .endOfInput).EndsAt stop.skip.rest last := by
  obtain ⟨condition, ending, stop, last, children, closes, spans, final⟩ := spans_of_parse found
  have formed := formed.children
  have connects := Node.connects_iff.1 connects
  rw [children] at formed connects
  simp only [made, List.forall_mem_cons, List.exists_mem_cons_iff, List.not_mem_nil, false_and,
    exists_false, or_false] at formed connects
  obtain ⟨_, same, kind, _⟩ := spans.node rfl
  rw [← List.singleton_inj.1 same] at kind
  rcases connects with (⟨joins, _⟩ | inside) | (⟨joins, _⟩ | inside)
  · cases joins
  · have resumes := resumable_of_formed formed.1 kind (by decide) spans inside
    exact ⟨stop, resumes.skip, last, final.endsAt rfl⟩
  · cases joins
  · have listed := formed.2.1.rule_of_connects inside
    rw [closes] at listed
    exact absurd listed (by decide)

/-- Behind a connective that joins conditions of a filter the reading resumes in a text that the
grammar accepts, so that no error is found there. -/
theorem tail_accepted_of_connects {filter : String} {tree : Node} {start : Nat}
    {place : Resumption} (accepted : parse filter = .ok tree)
    (resumes : resumption filter.toList start = some place)
    (connects : tree.Connects place.offset) :
    (∃ before, filter.toList = before ++ place.rest ∧ byteSize before = place.offset) ∧
    (∃ tail, Grammar.parse .cqlFilter (List.replicate place.depth '(' ++ place.rest)
      = .ok [tail]) ∧
    errorBehind? filter.toList start = none := by
  obtain ⟨before, whole, size, nested⟩ := nesting_of_resumption resumes
  obtain ⟨stop, ⟨front, behind, depth, reached, there, deepens, _, ends⟩, last, final⟩ :=
    resumes_of_parse (parse_eq_ok_iff.1 accepted).2 (formed_of_parse accepted)
      (rule_of_parse accepted) connects
  have bytes : byteSize before = byteSize front := by
    rw [size, ← there, reached.offset_eq, Nat.zero_add]
  obtain ⟨rfl, rest⟩ := parts_eq_of_byteSize (whole.symm.trans reached.rest_eq) bytes
  have level : place.depth = depth := by
    have counted := nested.symm.trans (deepens 0)
    rw [Nat.zero_add] at counted
    exact congrArg Nesting.depth counted
  rw [← level, ← rest] at ends
  obtain ⟨tail, read⟩ := exists_parse_of_endsAt ends final
  refine ⟨⟨before, whole, size⟩, ⟨tail, read⟩, ?_⟩
  rw [errorBehind?, resumes]
  simp only [read]

/-- The last `OR` stands in two groups, behind a negation, quoted brackets and the `AND` of a
range. -/
theorem tail_accepted_of_connects_group :
    let filter := "NOT (\"a(\" = 'it''s (' OR b BETWEEN 1 AND 2 AND (c = 3 OR d = 4)) AND e = 5"
    ∃ tree place, parse filter = .ok tree ∧ resumption filter.toList 54 = some place ∧
      place.depth = 2 ∧ place.rest = " d = 4)) AND e = 5".toList ∧ tree.Connects place.offset ∧
      (∃ tail, Grammar.parse .cqlFilter (List.replicate place.depth '(' ++ place.rest)
        = .ok [tail]) ∧
      errorBehind? filter.toList 54 = none := by
  intro filter
  have known : (parse filter).toOption.any (fun tree => (resumption filter.toList 54).any
      fun place => place.depth == 2 && place.rest == " d = 4)) AND e = 5".toList
        && decide (tree.Connects place.offset)) = true := by
    decide +kernel
  cases accepted : parse filter with
  | error errors =>
      rw [accepted] at known
      cases known
  | ok tree =>
      cases resumes : resumption filter.toList 54 with
      | none =>
          rw [accepted, resumes] at known
          cases known
      | some place =>
          rw [accepted, resumes] at known
          simp only [Except.toOption, Option.any_some, Bool.and_eq_true, beq_iff_eq,
            decide_eq_true_eq] at known
          obtain ⟨⟨depth, rest⟩, connects⟩ := known
          obtain ⟨_, accepts, silent⟩ := tail_accepted_of_connects accepted resumes connects
          exact ⟨tree, place, rfl, rfl, depth, rest, connects, accepts, silent⟩

end Filter

end Cql
