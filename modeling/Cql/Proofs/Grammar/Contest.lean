import Cql.Proofs.Grammar.OrderedChoice

/-!
# Contests between alternatives

Where two alternatives begin alike the earlier one reads on before it fails. A call of a function is
tried before a property and fails at the bracket that is missing, a box with heights fails at its
second comma. The forms of a comparison all begin with an operand. Each of them either refuses the
operand or takes all of it, and then fails at the sign or the word that makes the comparison.
-/

namespace Cql.Grammar

open Phrase

variable {tokens rest : List (List Char)} {outlines : List Outline} {next : Option Terminal}

/-! ## Derivations taken apart -/

theorem Derivation.of_token {rule : Rule} {pattern : Pattern}
    (derived : Derivation (.ref rule) tokens outlines) (defined : definition rule = .token pattern)
    (inner : rule ≠ .endOfInput) : ∃ text, tokens = [text] ∧ (Terminal.token rule).Reads text := by
  cases derived with
  | ending => exact absurd rfl inner
  | token reads => exact ⟨_, rfl, reads⟩
  | phrase other _ => cases other.symm.trans defined

theorem Derivation.of_phrase {rule : Rule} {body : Phrase}
    (derived : Derivation (.ref rule) tokens outlines) (defined : definition rule = .phrase body) :
    ∃ inner, Derivation body tokens inner := by
  cases derived with
  | ending => cases defined
  | token reads =>
      obtain ⟨_, _, other, _⟩ := reads
      cases other.symm.trans defined
  | phrase other inner =>
      cases other.symm.trans defined
      exact ⟨_, inner⟩

theorem Derivation.of_seq {first second : Phrase}
    (derived : Derivation (.seq first second) tokens outlines) :
    ∃ front back outlines' outlines'', tokens = front ++ back ∧
      Derivation first front outlines' ∧ Derivation second back outlines'' := by
  cases derived with
  | seq one two => exact ⟨_, _, _, _, rfl, one, two⟩

theorem Derivation.of_symbol {mark : Char} (derived : Derivation (.symbol mark) tokens outlines) :
    tokens = [[mark]] := by
  cases derived
  rfl

theorem Derivation.pick {phrase : Phrase} (derived : Derivation phrase tokens outlines) :
    ∃ pick ∈ phrase.picks, Derivation pick.2 tokens outlines := by
  induction derived with
  | altFirst one ih =>
      obtain ⟨pick, among, inner⟩ := ih
      exact ⟨pick, List.mem_append_left _ among, inner⟩
  | altSecond two ih =>
      obtain ⟨pick, among, inner⟩ := ih
      exact ⟨_, List.mem_append_right _ (List.mem_map_of_mem among), inner⟩
  | start => exact ⟨_, List.mem_singleton_self _, .start⟩
  | ending => exact ⟨_, List.mem_singleton_self _, .ending⟩
  | symbol mark => exact ⟨_, List.mem_singleton_self _, .symbol mark⟩
  | token reads => exact ⟨_, List.mem_singleton_self _, .token reads⟩
  | phrase defined inner _ => exact ⟨_, List.mem_singleton_self _, .phrase defined inner⟩
  | seq one two _ _ => exact ⟨_, List.mem_singleton_self _, .seq one two⟩
  | join one two _ _ => exact ⟨_, List.mem_singleton_self _, .join one two⟩
  | optNone inner => exact ⟨_, List.mem_singleton_self _, .optNone inner⟩
  | optSome one _ => exact ⟨_, List.mem_singleton_self _, .optSome one⟩
  | againNone inner => exact ⟨_, List.mem_singleton_self _, .againNone inner⟩
  | againMore one more _ _ => exact ⟨_, List.mem_singleton_self _, .againMore one more⟩

/-! ## Functions and boxes -/

theorem function_fails (derived : Derivation (.ref .propertyName) tokens outlines)
    (heads : Heads rest next) (refused : (Phrase.ref .argumentList).isRefused next = true) :
    (Phrase.ref .function).Fails (spell (tokens ++ rest)) := by
  obtain ⟨inner, named⟩ := derived.of_phrase rfl
  obtain ⟨text, rfl, reads⟩ := named.of_token rfl (by decide)
  refine Fails.phrase rfl (.seq_second (gives_reads reads rest) ?_)
  rw [heads.dropWhile_gap]
  exact fails_of_isRefused refused heads

theorem sixValues_fails (derived : Derivation fourValues tokens outlines) (heads : Heads rest next)
    (refused : (Phrase.symbol ',').isRefused next = true) :
    sixValues.Fails (spell (tokens ++ rest)) := by
  obtain ⟨_, _, _, _, rfl, pair, last⟩ := derived.of_seq
  obtain ⟨_, _, _, _, rfl, first, second⟩ := pair.of_seq
  obtain ⟨one, rfl, visible, _, defined, whole⟩ := first.of_token rfl (by decide)
  obtain rfl := second.of_symbol
  obtain ⟨two, rfl, visible', _, defined', whole'⟩ := last.of_token rfl (by decide)
  cases defined
  cases defined'
  have height : (Terminal.token .minElev).Reads one := ⟨visible, _, rfl, whole⟩
  have east : (Terminal.token .eastBoundLon).Reads two := ⟨visible', _, rfl, whole'⟩
  have comma : Heads ([','] :: two :: rest) (some (.symbol ',')) := .begun rfl (by decide)
  have front : (Phrase.seq (.ref .minElev) (.symbol ',')).Gives
      (spell (one :: [','] :: two :: rest)) [.leaf .minElev (String.ofList one)]
        (gap (two :: rest)) := by
    refine (gives_reads height _).seq ?_
    rw [comma.dropWhile_gap]
    exact gives_mark ',' (two :: rest)
  refine .seq_second front ?_
  rw [(heads_of_reads east rest).dropWhile_gap]
  refine .seq_first (.seq_second (gives_reads east rest) ?_)
  rw [heads.dropWhile_gap]
  exact fails_of_isRefused refused heads

/-! ## Operands of comparisons -/

def operandRules : List Rule :=
  [.scalarExpression, .characterExpression, .numericExpression, .isNullOperand]

def operandItems : List Rule :=
  [.characterClause, .numericLiteral, .booleanLiteral, .instantInstance, .geometryLiteral,
   .function, .propertyName]

def bodyOf (rule : Rule) : Phrase :=
  match definition rule with
  | .phrase body => body
  | _ => .start

theorem definition_of_operand {rule : Rule} (operand : rule ∈ operandRules) :
    definition rule = .phrase (bodyOf rule) := by
  simp only [operandRules, List.mem_cons, List.not_mem_nil, or_false] at operand
  rcases operand with rfl | rfl | rfl | rfl <;> rfl

theorem items_of_operand : ∀ rule ∈ operandRules, ∀ pick ∈ (bodyOf rule).picks,
    ∃ item ∈ operandItems, pick.2 = .ref item := by
  decide

/-- A rule for operands has the item among its alternatives, and those before it refuse the first
token of the item, or the rule itself refuses it. Only for a function before a property this is
not settled by the first token. -/
theorem operand_has_or_refuses : ∀ rule ∈ operandRules, ∀ item ∈ operandItems,
    (∃ pick ∈ (bodyOf rule).picks, pick.2 = .ref item ∧ ∀ earlier ∈ pick.1,
      (earlier = .ref .function ∧ item = .propertyName) ∨
        ∀ next ∈ ruleFirst item, earlier.isRefused (some next) = true) ∨
      ∀ next ∈ ruleFirst item, (Phrase.ref rule).isRefused (some next) = true := by
  decide

theorem isDecided_of_item {item : Rule} (kind : item ∈ operandItems) :
    (Phrase.ref item).isDecided = true ∧ (Phrase.ref item).mayBeEmpty = false := by
  simp only [operandItems, List.mem_cons, List.not_mem_nil, or_false] at kind
  rcases kind with rfl | rfl | rfl | rfl | rfl | rfl | rfl <;> exact ⟨rfl, rfl⟩

theorem operand_taken_or_refused {rule item : Rule} (operand : rule ∈ operandRules)
    (kind : item ∈ operandItems) (derived : Derivation (.ref item) tokens outlines)
    (recognised : Recognised (.ref item) tokens outlines) (heads : Heads rest next) {depth : Nat}
    (stops : stopsWithin next depth item = true)
    (unbracketed : (Phrase.ref .argumentList).isRefused next = true) :
    (∃ outlines' left, (Phrase.ref rule).Gives (spell (tokens ++ rest)) outlines' left ∧
      left.dropWhile isBlank = spell rest) ∨
      (Phrase.ref rule).Fails (spell (tokens ++ rest)) := by
  obtain ⟨decided, visible⟩ := isDecided_of_item kind
  obtain ⟨terminal, begins, front⟩ := derived.begins decided visible heads
  rcases operand_has_or_refuses rule operand item kind with
    ⟨pick, picked, same, before⟩ | refused
  · left
    obtain ⟨left, given, done⟩ := recognised heads stops (derived.enters decided heads _)
    rw [← same] at given
    refine ⟨_, left, (gives_of_picks picked (fun earlier among => ?_) given).phrase
      (definition_of_operand operand), done⟩
    rcases before earlier among with ⟨rfl, rfl⟩ | refused
    · exact function_fails derived heads unbracketed
    · exact fails_of_isRefused (refused terminal begins) front
  · exact .inr (fails_of_isRefused (refused terminal begins) front)

/-! ## Forms of comparisons -/

/-- A form of a comparison: its operand and the sign or word that follows, perhaps after a
negation. -/
structure ComparisonForm where
  rule : Rule
  operand : Rule
  negatable : Bool
  mark : Rule

namespace ComparisonForm

def all : List ComparisonForm :=
  [⟨.binaryComparisonPredicate, .scalarExpression, false, .comparisonOperator⟩,
   ⟨.isLikePredicate, .characterExpression, true, .keyword .like⟩,
   ⟨.isBetweenPredicate, .numericExpression, true, .keyword .between⟩,
   ⟨.isInListPredicate, .scalarExpression, true, .keyword .inList⟩,
   ⟨.isNullPredicate, .isNullOperand, false, .keyword .is⟩]

theorem operand_mem : ∀ form ∈ all, form.operand ∈ operandRules := by
  decide

theorem definition_of_mark {form : ComparisonForm} (among : form ∈ all) :
    ∃ pattern, definition form.mark = .token pattern ∧ form.mark ≠ .endOfInput := by
  simp only [all, List.mem_cons, List.not_mem_nil, or_false] at among
  rcases among with rfl | rfl | rfl | rfl | rfl <;> exact ⟨_, rfl, by decide⟩

def head (form : ComparisonForm) : Phrase :=
  .seq (if form.negatable then .seq (.ref form.operand) (.opt (kw .not)) else .ref form.operand)
    (.ref form.mark)

theorem fails_of_head {form : ComparisonForm} (among : form ∈ all) {cs : List Char}
    (fails : form.head.Fails cs) : (Phrase.ref form.rule).Fails cs := by
  simp only [all, List.mem_cons, List.not_mem_nil, or_false] at among
  rcases among with rfl | rfl | rfl | rfl | rfl
  · exact .phrase rfl fails.seq_first
  · exact .phrase rfl fails.seq_first
  · exact .phrase rfl fails.seq_first.seq_first.seq_first
  · exact .phrase rfl fails.seq_first
  · exact .phrase rfl fails.seq_first.seq_first

theorem head_of_derivation {form : ComparisonForm} (among : form ∈ all)
    (derived : Derivation (.ref form.rule) tokens outlines) :
    ∃ front back outlines', tokens = front ++ back ∧ Derivation form.head front outlines' := by
  simp only [all, List.mem_cons, List.not_mem_nil, or_false] at among
  rcases among with rfl | rfl | rfl | rfl | rfl
  · obtain ⟨_, body⟩ := derived.of_phrase rfl
    obtain ⟨front, back, _, _, rfl, head, _⟩ := body.of_seq
    exact ⟨front, back, _, rfl, head⟩
  · obtain ⟨_, body⟩ := derived.of_phrase rfl
    obtain ⟨front, back, _, _, rfl, head, _⟩ := body.of_seq
    exact ⟨front, back, _, rfl, head⟩
  · obtain ⟨_, body⟩ := derived.of_phrase rfl
    obtain ⟨_, last, _, _, rfl, body, _⟩ := body.of_seq
    obtain ⟨_, word, _, _, rfl, body, _⟩ := body.of_seq
    obtain ⟨front, value, _, _, rfl, head, _⟩ := body.of_seq
    exact ⟨front, value ++ (word ++ last), _, by simp only [List.append_assoc], head⟩
  · obtain ⟨_, body⟩ := derived.of_phrase rfl
    obtain ⟨front, back, _, _, rfl, head, _⟩ := body.of_seq
    exact ⟨front, back, _, rfl, head⟩
  · obtain ⟨_, body⟩ := derived.of_phrase rfl
    obtain ⟨_, null, _, _, rfl, body, _⟩ := body.of_seq
    obtain ⟨front, negation, _, _, rfl, head, _⟩ := body.of_seq
    exact ⟨front, negation ++ null, _, by simp only [List.append_assoc], head⟩

/-- The mark of the form does not follow the operand. -/
def Lacks (form : ComparisonForm) (rest : List (List Char)) : Prop :=
  if form.negatable then
    ∃ outlines left, (Phrase.opt (kw .not)).Gives (spell rest) outlines left ∧
      (Phrase.ref form.mark).Fails (left.dropWhile isBlank)
  else (Phrase.ref form.mark).Fails (spell rest)

theorem lacks_of_isRefused {form : ComparisonForm} (heads : Heads rest next)
    (negation : (kw .not).isRefused next = true)
    (mark : (Phrase.ref form.mark).isRefused next = true) : form.Lacks rest := by
  rw [Lacks]
  split
  · refine ⟨_, _, (fails_of_isRefused negation heads).opt, ?_⟩
    rw [heads.dropWhile_spell]
    exact fails_of_isRefused mark heads
  · exact fails_of_isRefused mark heads

/-- A form of a comparison fails at an operand that its mark does not follow. -/
theorem fails_of_lacks {form : ComparisonForm} (among : form ∈ all) {item : Rule}
    (kind : item ∈ operandItems) (derived : Derivation (.ref item) tokens outlines)
    (recognised : Recognised (.ref item) tokens outlines) (heads : Heads rest next) {depth : Nat}
    (stops : stopsWithin next depth item = true)
    (unbracketed : (Phrase.ref .argumentList).isRefused next = true) (lacks : form.Lacks rest) :
    (Phrase.ref form.rule).Fails (spell (tokens ++ rest)) := by
  refine fails_of_head among ?_
  rw [Lacks] at lacks
  rw [head]
  rcases operand_taken_or_refused (operand_mem form among) kind derived recognised heads stops
    unbracketed with ⟨_, left, given, done⟩ | refused
  · split
    · next negatable =>
        rw [if_pos negatable] at lacks
        obtain ⟨_, _, negation, mark⟩ := lacks
        rw [← done] at negation
        exact .seq_second (given.seq negation) mark
    · next plain =>
        rw [if_neg plain] at lacks
        refine .seq_second given ?_
        rw [done]
        exact lacks
  · split
    · exact refused.seq_first.seq_first
    · exact refused.seq_first

/-- What stands in a comparison before its mark ends where a negation or a mark begins. -/
theorem ends_of_mark : ∀ mark ∈ Rule.keyword .not :: all.map ComparisonForm.mark,
    (Phrase.ref .argumentList).isRefused (some (.token mark)) = true ∧
      ∀ item ∈ operandItems, stopsWithin (some (.token mark)) lookDepth item = true := by
  decide

/-- The marks of comparisons are told apart, also from a negation. -/
theorem isRefused_of_mark : ∀ form ∈ all, ∀ other ∈ all, form.mark ≠ other.mark →
    (Phrase.ref form.mark).isRefused (some (.token other.mark)) = true ∧
      (Phrase.ref form.mark).isRefused (some (.token (.keyword .not))) = true ∧
      (kw .not).isRefused (some (.token other.mark)) = true := by
  decide

theorem parts_of_head {form : ComparisonForm} (among : form ∈ all)
    (derived : Derivation form.head tokens outlines) :
    ∃ item ∈ operandItems, ∃ value outlines' marks, Derivation (.ref item) value outlines' ∧
      tokens = value ++ marks ∧
      ((∃ mark, marks = [mark] ∧ (Terminal.token form.mark).Reads mark) ∨
        (form.negatable = true ∧ ∃ negation mark, marks = [negation, mark] ∧
          (Terminal.token (.keyword .not)).Reads negation ∧
            (Terminal.token form.mark).Reads mark)) := by
  have operand := operand_mem form among
  have found : ∀ {value outlines'}, Derivation (.ref form.operand) value outlines' →
      ∃ item ∈ operandItems, ∃ outlines', Derivation (.ref item) value outlines' := by
    intro value outlines' derived
    obtain ⟨_, body⟩ := derived.of_phrase (definition_of_operand operand)
    obtain ⟨pick, picked, inner⟩ := body.pick
    obtain ⟨item, kind, same⟩ := items_of_operand _ operand pick picked
    exact ⟨item, kind, _, same ▸ inner⟩
  obtain ⟨pattern, defined, inner⟩ := definition_of_mark among
  obtain ⟨front, _, _, _, rfl, before, last⟩ := derived.of_seq
  obtain ⟨mark, rfl, reads⟩ := last.of_token defined inner
  split at before
  · next negatable =>
      obtain ⟨value, _, _, _, rfl, value', negation⟩ := before.of_seq
      obtain ⟨item, kind, _, derived'⟩ := found value'
      cases negation with
      | optNone _ =>
          exact ⟨item, kind, value, _, [mark], derived', by rw [List.append_nil],
            .inl ⟨mark, rfl, reads⟩⟩
      | optSome one =>
          obtain ⟨text, rfl, negates⟩ := one.of_token rfl (by decide)
          exact ⟨item, kind, value, _, [text, mark], derived', by rw [List.append_assoc]; rfl,
            .inr ⟨negatable, text, mark, rfl, negates, reads⟩⟩
  · obtain ⟨item, kind, _, derived'⟩ := found before
    exact ⟨item, kind, front, _, [mark], derived', rfl, .inl ⟨mark, rfl, reads⟩⟩

theorem fails_at_other {form other : ComparisonForm} (among : form ∈ all) (among' : other ∈ all)
    (differs : form.mark ≠ other.mark) (derived : Derivation (.ref other.rule) tokens outlines)
    (shorter : ∀ {item value outlines'}, item ∈ operandItems → value.length < tokens.length →
      Derivation (.ref item) value outlines' → Recognised (.ref item) value outlines') :
    (Phrase.ref form.rule).Fails (spell (tokens ++ rest)) := by
  obtain ⟨front, back, _, rfl, head⟩ := head_of_derivation among' derived
  obtain ⟨item, kind, value, _, marks, operand, rfl, marked⟩ := parts_of_head among' head
  obtain ⟨apart, negated, unlike⟩ := isRefused_of_mark form among other among' differs
  have ends := ends_of_mark other.mark (List.mem_cons_of_mem _ (List.mem_map_of_mem among'))
  have ends' := ends_of_mark (.keyword .not) List.mem_cons_self
  have less : value.length < (value ++ marks ++ back).length := by
    rcases marked with ⟨_, rfl, _⟩ | ⟨_, _, _, rfl, _⟩ <;> simp
  have recognised := shorter kind less operand
  simp only [List.append_assoc]
  rcases marked with ⟨mark, rfl, reads⟩ | ⟨_, negation, mark, rfl, negates, reads⟩
  · simp only [List.cons_append, List.nil_append]
    have heads := heads_of_reads reads (back ++ rest)
    exact fails_of_lacks among kind operand recognised heads (ends.2 item kind) ends.1
      (lacks_of_isRefused heads unlike apart)
  · simp only [List.cons_append, List.nil_append]
    have heads := heads_of_reads negates (mark :: (back ++ rest))
    have heads' := heads_of_reads reads (back ++ rest)
    refine fails_of_lacks among kind operand recognised heads (ends'.2 item kind) ends'.1 ?_
    rw [Lacks]
    split
    · refine ⟨_, _, (gives_reads negates _).opt, ?_⟩
      rw [heads'.dropWhile_gap]
      exact fails_of_isRefused apart heads'
    · exact fails_of_isRefused negated heads

end ComparisonForm

/-! ## Predicates -/

theorem fails_of_picks {phrase : Phrase} {cs : List Char}
    (fails : ∀ pick ∈ phrase.picks, pick.2.Fails cs) : phrase.Fails cs := by
  induction phrase with
  | alt first second ihFirst ihSecond =>
      rw [Phrase.picks, List.forall_mem_append, List.forall_mem_map] at fails
      exact .alt (ihFirst fails.1) (ihSecond fails.2)
  | _ => exact fails _ (List.mem_singleton_self _)

theorem forms_of_comparison : ∀ pick ∈ (bodyOf .comparisonPredicate).picks,
    ∃ form ∈ ComparisonForm.all, pick.2 = .ref form.rule := by
  decide

/-- The predicates that are no comparisons begin with the name of a relation. -/
theorem kinds_of_predicate : ∀ pick ∈ (bodyOf .predicate).picks,
    pick.2 = .ref .comparisonPredicate ∨ ∀ item ∈ [Rule.booleanLiteral, .function],
      ∀ next ∈ ruleFirst item, pick.2.isRefused (some next) = true := by
  decide

/-- At a truth value or a function that nothing compares there is no predicate. -/
theorem predicate_fails {item : Rule} (kind : item ∈ [Rule.booleanLiteral, .function])
    (derived : Derivation (.ref item) tokens outlines)
    (recognised : Recognised (.ref item) tokens outlines) (heads : Heads rest next)
    (refused : ∀ tail ∈ Phrase.ref .argumentList :: comparers, tail.isRefused next = true) :
    (Phrase.ref .predicate).Fails (spell (tokens ++ rest)) := by
  have known : item ∈ operandItems ∧ stopsWithin next 3 item = true := by
    simp only [List.mem_cons, List.not_mem_nil, or_false] at kind
    rcases kind with rfl | rfl <;> exact ⟨by decide, rfl⟩
  obtain ⟨among, stops⟩ := known
  obtain ⟨decided, visible⟩ := isDecided_of_item among
  obtain ⟨terminal, begins, front⟩ := derived.begins decided visible heads
  have marks : ∀ form ∈ ComparisonForm.all, Phrase.ref form.mark ∈ comparers := by decide
  have comparison : (bodyOf .comparisonPredicate).Fails (spell (tokens ++ rest)) := by
    refine fails_of_picks fun pick picked => ?_
    obtain ⟨form, one, same⟩ := forms_of_comparison pick picked
    rw [same]
    have lacks : form.Lacks rest := ComparisonForm.lacks_of_isRefused heads
      (refused _ (by decide)) (refused _ (List.mem_cons_of_mem _ (marks form one)))
    exact ComparisonForm.fails_of_lacks one among derived recognised heads stops
      (refused _ List.mem_cons_self) lacks
  have any : (bodyOf .predicate).Fails (spell (tokens ++ rest)) := by
    refine fails_of_picks fun pick picked => ?_
    rcases kinds_of_predicate pick picked with same | other
    · rw [same]
      exact comparison.phrase rfl
    · exact fails_of_isRefused (other item kind terminal begins) front
  exact any.phrase rfl

/-! ## All contests -/

/-- The contests in which something needs to be read beyond one token. -/
theorem contest_cases : ∀ contest ∈ contests,
    contest = ⟨.ref .function, .ref .propertyName, [.ref .argumentList]⟩ ∨
    contest = ⟨sixValues, fourValues, [.symbol ',']⟩ ∨
    (∃ item ∈ [Rule.booleanLiteral, .function],
      contest = ⟨.ref .predicate, .ref item, .ref .argumentList :: comparers⟩) ∨
    ∃ form ∈ ComparisonForm.all, ∃ other ∈ ComparisonForm.all, form.mark ≠ other.mark ∧
      contest = ⟨.ref form.rule, .ref other.rule, []⟩ := by
  decide

/-- What is derived holds its own in all contests if what is shorter is recognised. -/
theorem prevails {chosen : Phrase} (derived : Derivation chosen tokens outlines)
    (recognised : Recognised chosen tokens outlines)
    (shorter : ∀ {phrase tokens' outlines'}, tokens'.length < tokens.length →
      Derivation phrase tokens' outlines' → phrase.isDecided = true →
      Recognised phrase tokens' outlines') : Prevails chosen tokens := by
  rintro contest among rfl rest next heads refused
  rcases contest_cases contest among with
    rfl | rfl | ⟨item, kind, rfl⟩ | ⟨form, one, other, two, differs, rfl⟩
  · exact function_fails derived heads (refused _ List.mem_cons_self)
  · exact sixValues_fails derived heads (refused _ List.mem_cons_self)
  · exact predicate_fails kind derived recognised heads refused
  · exact ComparisonForm.fails_at_other one two differs derived fun kind less inner =>
      shorter less inner (isDecided_of_item kind).1

end Cql.Grammar
