import Cql.Proofs.Grammar.TokenCut
import Cql.Proofs.Grammar.TokenNesting

/-!
# The tokens of a text

What is derived from a text is derived from the tokens in it: the text is those tokens with blanks
between and around them. As the pass that bounds the nesting sees through the layout, it finds a
text to nest too deep exactly if its tokens do.
-/

namespace Cql.Grammar

open Cql.Filter

/-- The text is the tokens in their order, with any number of blanks before, between and after
them. -/
inductive Laid : List (List Char) → List Char → Prop where
  | nil : Laid [] []
  | blank {c : Char} {tokens : List (List Char)} {text : List Char} (blank : isBlank c = true)
      (laid : Laid tokens text) : Laid tokens (c :: text)
  | token (token : List Char) {tokens : List (List Char)} {text : List Char}
      (laid : Laid tokens text) : Laid (token :: tokens) (token ++ text)

namespace Laid

variable {tokens tokens' : List (List Char)} {text text' : List Char}

theorem append (one : Laid tokens text) (two : Laid tokens' text') :
    Laid (tokens ++ tokens') (text ++ text') := by
  induction one with
  | nil => exact two
  | blank blank _ ih => exact .blank blank ih
  | token token _ ih =>
      rw [List.append_assoc]
      exact .token token ih

theorem single (token : List Char) : Laid [token] token := by
  have laid := Laid.token token .nil
  rwa [List.append_nil] at laid

theorem blanks {blanks : List Char} (blank : ∀ c ∈ blanks, isBlank c = true) : Laid [] blanks := by
  induction blanks with
  | nil => exact .nil
  | cons c cs ih =>
      obtain ⟨first, others⟩ := List.forall_mem_cons.1 blank
      exact .blank first (ih others)

end Laid

/-! ## From texts to tokens -/

/-- Whether the phrase is made of tokens and of rules that make nodes. -/
def Phrase.isLexed : Phrase → Bool
  | .text _ => false
  | .ref rule =>
      match definition rule with
      | .fragment _ => false
      | _ => true
  | .seq first second | .join first second | .alt first second => first.isLexed && second.isLexed
  | .opt inner | .again inner => inner.isLexed
  | .start | .symbol _ => true

theorem isLexed_definition (rule : Rule) :
    (match definition rule with
      | .phrase body => body.isLexed
      | _ => true) = true := by
  cases rule <;> rfl

/-- A text that a phrase describes is a row of tokens that the phrase describes. -/
theorem Derives.tokens {phrase : Phrase} {offset : Nat} {text : List Char} {nodes : List Node}
    (derived : Derives phrase offset text nodes) (lexed : phrase.isLexed = true) :
    ∃ tokens, Laid tokens text ∧ Derivation phrase tokens (Node.outlineAll nodes) := by
  induction derived with
  | start => exact ⟨[], .nil, .start⟩
  | symbol mark offset => exact ⟨[[mark]], .single [mark], .symbol mark⟩
  | text _ => cases lexed
  | @token rule pattern offset text left defined found =>
      have leaf : Node.outlineAll [⟨rule, offset, String.ofList text, []⟩]
          = [.leaf rule (String.ofList text)] := by
        simp only [Node.outlineAll, Node.outline, defined]
      rw [leaf]
      by_cases ending : rule = .endOfInput
      · subst ending
        cases defined
        obtain rfl : text = [] := Pattern.takes_of_scan _ found
        exact ⟨[], .nil, .ending⟩
      · exact ⟨[text], .single text, .token (reads_of_scan defined ending found)⟩
  | fragment defined _ _ => simp [Phrase.isLexed, defined] at lexed
  | @phrase rule body offset text nodes defined _ ih =>
      have known := isLexed_definition rule
      rw [defined] at known
      obtain ⟨tokens, laid, inner⟩ := ih known
      refine ⟨tokens, laid, ?_⟩
      have branch : Node.outlineAll [⟨rule, offset, String.ofList text, nodes⟩]
          = [.branch rule (Node.outlineAll nodes)] := by
        simp only [Node.outlineAll, Node.outline, defined]
      rw [branch]
      exact .phrase defined inner
  | seq _ blank _ ihOne ihTwo =>
      obtain ⟨lexed, lexed'⟩ := Bool.and_eq_true_iff.1 lexed
      obtain ⟨tokens, laid, one⟩ := ihOne lexed
      obtain ⟨tokens', laid', two⟩ := ihTwo lexed'
      rw [Node.outlineAll_append, List.append_assoc]
      exact ⟨tokens ++ tokens', laid.append ((Laid.blanks blank).append laid'), .seq one two⟩
  | join _ _ ihOne ihTwo =>
      obtain ⟨lexed, lexed'⟩ := Bool.and_eq_true_iff.1 lexed
      obtain ⟨tokens, laid, one⟩ := ihOne lexed
      obtain ⟨tokens', laid', two⟩ := ihTwo lexed'
      rw [Node.outlineAll_append]
      exact ⟨tokens ++ tokens', laid.append laid', .join one two⟩
  | altFirst _ ih =>
      obtain ⟨tokens, laid, one⟩ := ih (Bool.and_eq_true_iff.1 lexed).1
      exact ⟨tokens, laid, .altFirst one⟩
  | altSecond _ ih =>
      obtain ⟨tokens, laid, two⟩ := ih (Bool.and_eq_true_iff.1 lexed).2
      exact ⟨tokens, laid, .altSecond two⟩
  | optNone inner _ => exact ⟨[], .nil, .optNone inner⟩
  | optSome _ ih =>
      obtain ⟨tokens, laid, one⟩ := ih lexed
      exact ⟨tokens, laid, .optSome one⟩
  | againNone inner _ => exact ⟨[], .nil, .againNone inner⟩
  | againMore blank _ _ ihOne ihMore =>
      obtain ⟨tokens, laid, one⟩ := ihOne lexed
      obtain ⟨tokens', laid', more⟩ := ihMore lexed
      rw [Node.outlineAll_append, List.append_assoc]
      exact ⟨tokens ++ tokens', (Laid.blanks blank).append (laid.append laid'), .againMore one more⟩

/-! ## Whole texts -/

variable {depth : Nat} {here stop : Cursor} {before after : Frontier} {text : List Char}
  {nodes : List Node}

/-- The end of the text is found at the end only, and takes nothing. -/
theorem ended_of_matchPattern {pattern : Pattern}
    (defined : definition .endOfInput = .token pattern)
    (taken : matchPattern pattern here = some (text, stop)) : text = [] ∧ stop.rest = [] := by
  cases defined
  have scanned := scan_of_matchPattern taken
  obtain rfl : text = [] := Pattern.takes_of_scan _ scanned
  refine ⟨rfl, ?_⟩
  cases rest : stop.rest with
  | nil => rfl
  | cons c cs => rw [rest] at scanned; cases scanned

theorem rest_of_endOfInput (spans : (Phrase.ref .endOfInput).Spans here nodes stop) :
    stop.rest = [] := by
  obtain ⟨_, _, _, _, step⟩ := spans.step
  cases step with
  | phrase defined _ => cases defined
  | fragment defined _ => cases defined
  | token defined taken => exact (ended_of_matchPattern defined taken).2

/-- A filter is a condition from the start of the text on, with the end of the text behind it. -/
theorem Phrase.Spans.filter (spans : (Phrase.ref .cqlFilter).Spans here nodes stop) :
    ∃ text mid front back, nodes = [⟨.cqlFilter, here.offset, text, front ++ back⟩] ∧
      (Phrase.ref .booleanExpression).Spans here.skip front mid ∧
      (Phrase.ref .endOfInput).Spans mid.skip back stop := by
  obtain ⟨text, children, rfl, body⟩ := spans.branch rfl
  obtain ⟨mid, front, back, expression, final, rfl⟩ := body.seq
  obtain ⟨_, _, _, opening, condition, rfl⟩ := expression.seq
  obtain ⟨rfl, rfl⟩ := opening.start
  exact ⟨text, mid, _, back, rfl, condition, final⟩

theorem exists_matched_of_parse (found : parse .cqlFilter text = .ok nodes) :
    ∃ depth before stop after, stop.rest = [] ∧
      matchPhrase depth (.ref .cqlFilter) ⟨0, text⟩ before = .matched text nodes stop after := by
  obtain ⟨stop, spans⟩ := exists_spans_of_parse found
  obtain ⟨_, _, _, _, _, _, final⟩ := spans.filter
  have ended := rest_of_endOfInput final
  obtain ⟨depth, before, taken, after, matched⟩ := spans
  have whole : text = taken := by
    have reached := (reaches_of_matchPhrase matched).rest_eq
    rwa [ended, List.append_nil] at reached
  subst whole
  exact ⟨depth, before, stop, after, ended, matched⟩

/-- A text that matches the rule for whole filters is a row of tokens that the rule describes. -/
theorem tokens_of_parse (found : parse .cqlFilter text = .ok nodes) :
    ∃ tokens, Laid tokens text ∧ Derivation (.ref .cqlFilter) tokens (Node.outlineAll nodes) := by
  obtain ⟨_, _, _, _, _, matched⟩ := exists_matched_of_parse found
  exact (derives_of_matchPhrase matched).tokens rfl

/-! ## The nesting of a text -/

theorem passes_blank {c : Char} (blank : isBlank c = true) : Passes none [c] none := by
  refine .outside fun special => ?_
  simp only [List.mem_cons, List.not_mem_nil, or_false] at special
  rcases special with rfl | rfl | rfl | rfl <;> cases blank

/-- A bracket of a text is found to nest too deep exactly if one of its tokens does. -/
theorem overdeepFrom_laid {tokens : List (List Char)} (laid : Laid tokens text)
    (kinds : ∀ token ∈ tokens, token = ['('] ∨ token = [')'] ∨ Passes none token none)
    {limit depth : Nat} (bound : depth ≤ limit) (offset : Nat) :
    overdeepFrom limit ⟨none, depth⟩ offset text = none ↔ deepest depth tokens ≤ limit := by
  induction laid generalizing depth offset with
  | nil => exact iff_of_true rfl bound
  | @blank c tokens text blank _ ih =>
      obtain ⟨offset', skipped⟩ := (passes_blank blank).overdeepFrom_eq bound offset text
      rw [List.singleton_append] at skipped
      rw [skipped]
      exact ih kinds bound offset'
  | @token token tokens text _ ih =>
      obtain ⟨kind, others⟩ := List.forall_mem_cons.1 kinds
      rw [deepest, Nat.max_le, and_iff_right bound]
      by_cases level : depthAfter depth token ≤ limit
      · obtain ⟨offset', counted⟩ := overdeepFrom_token kind bound level
        rw [counted]
        exact ih others level offset'
      · have opens : token = ['('] := by
          refine Decidable.byContradiction fun other => ?_
          rw [depthAfter, if_neg other] at level
          split at level <;> omega
        subst opens
        refine iff_of_false ?_ fun shallow => level (Nat.le_trans (le_deepest _ _) shallow)
        have deep : limit < (Nesting.step ⟨none, depth⟩ '(').depth := Nat.lt_of_not_le level
        rw [List.singleton_append, overdeepFrom_cons bound, if_pos deep]
        exact Option.some_ne_none _

/-- The pass over the characters of a text finds the nesting of its tokens. -/
theorem firstOverdeep_laid {rule : Rule} {tokens : List (List Char)} {outlines : List Outline}
    (laid : Laid tokens text) (derived : Derivation (.ref rule) tokens outlines) (limit : Nat) :
    firstOverdeep text limit = none ↔ deepest 0 tokens ≤ limit :=
  overdeepFrom_laid laid (derived.passes rfl) (Nat.zero_le limit) 0

end Cql.Grammar
