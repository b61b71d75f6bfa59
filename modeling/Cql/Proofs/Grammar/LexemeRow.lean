import Cql.Proofs.Grammar.Completeness
import Cql.Proofs.Grammar.Span

/-!
# Rows of lexemes

A text that was matched is a row of lexemes, and the phrase is derived over them. What is derived
over the lexemes of a text is found in it in turn, however the text is laid out: the matcher finds
it where blanks stand around all tokens, and it cannot tell such a text from this one. As a text has
only one row of lexemes, the tree that is found is the one that was derived.
-/

namespace Cql.Grammar

open Cql.Text

/-! ## Points in time before an apostrophe -/

def Phrase.isSymbol : Phrase → Bool
  | .symbol _ => true
  | .start | .text _ | .ref _ | .seq _ _ | .join _ _ | .alt _ _ | .opt _ | .again _ => false

def Phrase.endsTimed : Phrase → Bool
  | .start | .symbol _ | .text _ => false
  | .ref rule => timedRules.contains rule || rule == .intervalParameter
  | .seq _ second | .join _ second => second.endsTimed
  | .alt first second => first.endsTimed || second.endsTimed
  | .opt inner | .again inner => inner.endsTimed

/-- Whether a punctuation mark follows each point in time in the phrase that is not its end. -/
def Phrase.isFenced : Phrase → Bool
  | .start => true
  | .text _ => false
  | .symbol mark => ['(', ')', ','].contains mark
  | .ref rule =>
      match definition rule with
      | .fragment _ => false
      | _ => true
  | .seq first second =>
      first.isFenced && second.isFenced && (!first.endsTimed || second.isSymbol)
  | .join first second => first.isFenced && second.isFenced && !first.endsTimed
  | .alt first second => first.isFenced && second.isFenced
  | .opt inner => inner.isFenced
  | .again inner => inner.isFenced && !inner.endsTimed

theorem isFenced_definition (rule : Rule) :
    (match definition rule with
      | .phrase body => body.isFenced && (!body.endsTimed || rule == .intervalParameter)
      | _ => true) = true := by
  cases rule <;> rfl

/-- Where a punctuation mark is found behind blanks, no apostrophe comes next. -/
theorem head_of_isSymbol {depth : Nat} {phrase : Phrase} {here stop : Cursor}
    {before after : Frontier} {text : List Char} {nodes : List Node}
    (symbol : phrase.isSymbol = true) (fenced : phrase.isFenced = true)
    (found : matchPhrase depth phrase here.skip before = .matched text nodes stop after) :
    here.rest.head? ≠ some '\'' := by
  intro apostrophe
  obtain ⟨cs, whole⟩ := List.head?_eq_some_iff.1 apostrophe
  have stands : here.skip.rest = '\'' :: cs := by
    rw [Cursor.skip, Cursor.advance, whole]
    exact List.dropWhile_cons_of_neg (show ¬isBlank '\'' = true by decide)
  obtain ⟨_, step⟩ := exists_matchStep found
  cases step with
  | symbol whole' =>
      cases stands.symm.trans whole'
      cases fenced
  | _ => cases symbol

/-! ## Phrases over lexemes -/

/-- The phrase describes `text`, which begins at byte `offset`, and makes `nodes` of it. Its tokens
are lexemes where `left` stands behind the text. -/
inductive Lexed : Phrase → Nat → List Char → List Node → List Char → Prop where
  | start {left : List Char} : Lexed .start 0 [] [] left
  | ending (offset : Nat) :
      Lexed (.ref .endOfInput) offset [] [⟨.endOfInput, offset, "", []⟩] []
  | symbol {mark : Char} {offset : Nat} {left : List Char} (marks : mark ∈ ['(', ')', ',']) :
      Lexed (.symbol mark) offset [mark] [] left
  | token {rule : Rule} {look : Look} {offset : Nat} {text left : List Char}
      (reads : (Terminal.token rule).Reads text) (among : look ∈ looksOf rule)
      (lexeme : IsLexeme look text left) :
      Lexed (.ref rule) offset text [⟨rule, offset, String.ofList text, []⟩] left
  | phrase {rule : Rule} {body : Phrase} {offset : Nat} {text left : List Char}
      {nodes : List Node} (defined : definition rule = .phrase body)
      (inner : Lexed body offset text nodes left) :
      Lexed (.ref rule) offset text [⟨rule, offset, String.ofList text, nodes⟩] left
  | seq {first second : Phrase} {offset : Nat} {text blanks text' left : List Char}
      {nodes nodes' : List Node} (one : Lexed first offset text nodes (blanks ++ (text' ++ left)))
      (blank : ∀ c ∈ blanks, isBlank c = true)
      (two : Lexed second (offset + byteSize text + byteSize blanks) text' nodes' left) :
      Lexed (.seq first second) offset (text ++ blanks ++ text') (nodes ++ nodes') left
  | join {first second : Phrase} {offset : Nat} {text text' left : List Char}
      {nodes nodes' : List Node} (one : Lexed first offset text nodes (text' ++ left))
      (two : Lexed second (offset + byteSize text) text' nodes' left) :
      Lexed (.join first second) offset (text ++ text') (nodes ++ nodes') left
  | altFirst {first second : Phrase} {offset : Nat} {text left : List Char} {nodes : List Node}
      (one : Lexed first offset text nodes left) : Lexed (.alt first second) offset text nodes left
  | altSecond {first second : Phrase} {offset : Nat} {text left : List Char} {nodes : List Node}
      (two : Lexed second offset text nodes left) :
      Lexed (.alt first second) offset text nodes left
  | optNone {inner : Phrase} {offset : Nat} {left : List Char} :
      Lexed (.opt inner) offset [] [] left
  | optSome {inner : Phrase} {offset : Nat} {text left : List Char} {nodes : List Node}
      (one : Lexed inner offset text nodes left) : Lexed (.opt inner) offset text nodes left
  | againNone {inner : Phrase} {offset : Nat} {left : List Char} :
      Lexed (.again inner) offset [] [] left
  | againMore {inner : Phrase} {offset : Nat} {blanks text text' left : List Char}
      {nodes nodes' : List Node} (blank : ∀ c ∈ blanks, isBlank c = true)
      (one : Lexed inner (offset + byteSize blanks) text nodes (text' ++ left))
      (more : Lexed (.again inner) (offset + byteSize blanks + byteSize text) text' nodes' left) :
      Lexed (.again inner) offset (blanks ++ text ++ text') (nodes ++ nodes') left

variable {depth : Nat} {phrase : Phrase} {here stop : Cursor} {before after : Frontier}
  {text left : List Char} {nodes : List Node} {offset : Nat}

theorem lexed_of_matchPattern {rule : Rule} {pattern : Pattern}
    (defined : definition rule = .token pattern)
    (found : matchPattern pattern here = some (text, stop))
    (single : rule ∈ timedRules → stop.rest.head? ≠ some '\'') :
    Lexed (.ref rule) here.offset text [⟨rule, here.offset, String.ofList text, []⟩]
      stop.rest := by
  by_cases ending : rule = .endOfInput
  · subst ending
    obtain ⟨rfl, ended⟩ := ended_of_matchPattern defined found
    rw [ended]
    exact .ending _
  · have scanned := scan_of_matchPattern found
    obtain ⟨look, among, lexeme⟩ := exists_lexeme defined ending scanned single
    exact .token (reads_of_scan defined ending scanned) among lexeme

theorem lexed_of_matchPhrase
    (found : matchPhrase depth phrase here before = .matched text nodes stop after)
    (fenced : phrase.isFenced = true)
    (single : phrase.endsTimed = true → stop.rest.head? ≠ some '\'') :
    Lexed phrase here.offset text nodes stop.rest := by
  induction depth generalizing phrase here stop before after text nodes with
  | zero => cases found
  | succ depth ih =>
      cases matchStep_of_matchPhrase found with
      | text _ => cases fenced
      | start first =>
          rw [first]
          exact .start
      | symbol _ => exact .symbol (List.contains_iff_mem.1 fenced)
      | token defined taken =>
          exact lexed_of_matchPattern defined taken fun timed =>
            single (Bool.or_eq_true_iff.2 (.inl (List.contains_iff_mem.2 timed)))
      | fragment defined _ => simp [Phrase.isFenced, defined] at fenced
      | @phrase rule _ _ _ _ _ _ _ defined inner =>
          have known := isFenced_definition rule
          rw [defined] at known
          obtain ⟨fenced', ends⟩ := Bool.and_eq_true_iff.1 known
          refine .phrase defined (ih inner fenced' fun timed => single ?_)
          rw [timed, Bool.not_true, Bool.false_or] at ends
          rw [Phrase.endsTimed, ends, Bool.or_true]
      | seq one two =>
          simp only [Phrase.isFenced, Bool.and_eq_true] at fenced
          obtain ⟨⟨fenced, fenced'⟩, ends⟩ := fenced
          have front := ih one fenced fun timed => by
            rw [timed, Bool.not_true, Bool.false_or] at ends
            exact head_of_isSymbol ends fenced' two
          rw [(Cursor.reaches_skip _).rest_eq, (reaches_of_matchPhrase two).rest_eq] at front
          refine .seq front isBlank_of_mem_takeWhile ?_
          rw [← (reaches_of_matchPhrase one).offset_eq]
          exact ih two fenced' single
      | join one two =>
          simp only [Phrase.isFenced, Bool.and_eq_true, Bool.not_eq_true'] at fenced
          obtain ⟨⟨fenced, fenced'⟩, open'⟩ := fenced
          have front := ih one fenced fun timed => by cases open'.symm.trans timed
          rw [(reaches_of_matchPhrase two).rest_eq] at front
          refine .join front ?_
          rw [← (reaches_of_matchPhrase one).offset_eq]
          exact ih two fenced' single
      | altFirst found =>
          obtain ⟨fenced, _⟩ := Bool.and_eq_true_iff.1 fenced
          exact .altFirst
            (ih found fenced fun timed => single (Bool.or_eq_true_iff.2 (.inl timed)))
      | altSecond _ found =>
          obtain ⟨_, fenced⟩ := Bool.and_eq_true_iff.1 fenced
          exact .altSecond
            (ih found fenced fun timed => single (Bool.or_eq_true_iff.2 (.inr timed)))
      | optSome found => exact .optSome (ih found fenced single)
      | optNone _ => exact .optNone
      | againMore one more =>
          obtain ⟨fenced', open'⟩ := Bool.and_eq_true_iff.1 fenced
          rw [Bool.not_eq_true'] at open'
          have front := ih one fenced' fun timed => by cases open'.symm.trans timed
          have rounds := ih more fenced single
          rw [(reaches_of_matchPhrase more).rest_eq] at front
          rw [(reaches_of_matchPhrase one).offset_eq] at rounds
          exact .againMore isBlank_of_mem_takeWhile front rounds
      | againNone _ => exact .againNone

/-- What is described as a row of lexemes is derived. -/
theorem Lexed.derives (lexed : Lexed phrase offset text nodes left) :
    Derives phrase offset text nodes := by
  induction lexed with
  | start => exact .start
  | ending offset => exact @Derives.token .endOfInput _ offset [] [] rfl rfl
  | symbol _ => exact .symbol _ _
  | @token rule look offset text left reads _ _ =>
      obtain ⟨_, pattern, defined, whole⟩ := reads
      refine @Derives.token rule pattern offset text [] defined ?_
      rwa [List.append_nil]
  | phrase defined _ ih => exact .phrase defined ih
  | seq _ blank _ ihOne ihTwo => exact .seq ihOne blank ihTwo
  | join _ _ ihOne ihTwo => exact .join ihOne ihTwo
  | altFirst _ ih => exact .altFirst ih
  | altSecond _ ih => exact .altSecond ih
  | optNone => exact .optNone _ _
  | optSome _ ih => exact .optSome ih
  | againNone => exact .againNone _ _
  | againMore blank _ _ ihOne ihMore => exact .againMore blank ihOne ihMore

/-! ## The lexemes of a text -/

/-- The text is a row of lexemes, with any number of blanks before, between and after them. -/
inductive LexemeRow : List (List Char) → List Char → Prop where
  | nil : LexemeRow [] []
  | blank {c : Char} {tokens : List (List Char)} {cs : List Char} (blank : isBlank c = true)
      (row : LexemeRow tokens cs) : LexemeRow tokens (c :: cs)
  | lexeme {look : Look} {text cs : List Char} {tokens : List (List Char)}
      (lexeme : IsLexeme look text cs) (row : LexemeRow tokens cs) :
      LexemeRow (text :: tokens) (text ++ cs)

namespace LexemeRow

variable {tokens tokens' : List (List Char)} {cs : List Char}

theorem blanks {gap : List Char} (blank : ∀ c ∈ gap, isBlank c = true)
    (row : LexemeRow tokens cs) : LexemeRow tokens (gap ++ cs) := by
  induction gap with
  | nil => exact row
  | cons c gap ih =>
      obtain ⟨first, others⟩ := List.forall_mem_cons.1 blank
      exact .blank first (ih others)

theorem not_blank {look : Look} {c : Char} {text : List Char}
    (lexeme : IsLexeme look (c :: text) cs) (blank : isBlank c = true) : False := by
  have looks : Grammar.look c = .blank := if_pos blank
  rw [lexeme.look_eq] at looks
  subst looks
  cases lexeme

/-- A text has one row of lexemes. -/
theorem unique (row : LexemeRow tokens cs) (other : LexemeRow tokens' cs) : tokens = tokens' := by
  induction row generalizing tokens' with
  | nil =>
      generalize whole : [] = cs at other
      cases other with
      | nil => rfl
      | blank _ _ => cases whole
      | lexeme lexeme _ => exact absurd (List.append_eq_nil_iff.1 whole.symm).1 lexeme.ne_nil
  | @blank c tokens cs blank _ ih =>
      generalize whole : c :: cs = text at other
      cases other with
      | nil => cases whole
      | blank _ row =>
          cases whole
          exact ih row
      | lexeme lexeme _ =>
          obtain ⟨d, text, rfl⟩ := List.exists_cons_of_ne_nil lexeme.ne_nil
          cases whole
          exact (not_blank lexeme blank).elim
  | @lexeme look text cs tokens lexeme _ ih =>
      obtain ⟨c, text, rfl⟩ := List.exists_cons_of_ne_nil lexeme.ne_nil
      generalize whole : c :: text ++ cs = front at other
      cases other with
      | nil => cases whole
      | blank blank _ =>
          cases whole
          exact (not_blank lexeme blank).elim
      | @lexeme look' text' cs' tokens' lexeme' row =>
          obtain ⟨d, text', rfl⟩ := List.exists_cons_of_ne_nil lexeme'.ne_nil
          obtain rfl : c = d := (List.cons.inj whole).1
          obtain rfl := lexeme.look_eq.symm.trans lexeme'.look_eq
          have found : look.lexeme.scan (c :: text ++ cs) = some (c :: text', cs') :=
            (congrArg look.lexeme.scan whole).trans lexeme'
          obtain ⟨same, rest⟩ := Prod.mk.inj (Option.some.inj (found.symm.trans lexeme))
          rw [same, ih (rest ▸ row)]

end LexemeRow

/-- A phrase over lexemes is derived from them. -/
theorem Lexed.tokens (lexed : Lexed phrase offset text nodes left) :
    ∃ tokens, Derivation phrase tokens (Node.outlineAll nodes) ∧
      ∀ {others}, LexemeRow others left → LexemeRow (tokens ++ others) (text ++ left) := by
  induction lexed with
  | start => exact ⟨[], .start, id⟩
  | ending offset => exact ⟨[], .ending, id⟩
  | @symbol mark offset left marks =>
      have lexeme : IsLexeme (look mark) [mark] left := by
        simp only [List.mem_cons, List.not_mem_nil, or_false] at marks
        rcases marks with rfl | rfl | rfl <;> rfl
      exact ⟨[[mark]], .symbol mark, fun row => .lexeme lexeme row⟩
  | @token rule look offset text left reads among lexeme =>
      refine ⟨[text], ?_, fun row => .lexeme lexeme row⟩
      have derived := Derivation.token reads
      obtain ⟨_, pattern, defined, _⟩ := reads
      simp only [Node.outlineAll, Node.outline, defined]
      exact derived
  | phrase defined _ ih =>
      obtain ⟨tokens, derived, row⟩ := ih
      refine ⟨tokens, ?_, row⟩
      simp only [Node.outlineAll, Node.outline, defined]
      exact .phrase defined derived
  | seq _ blank _ ihOne ihTwo =>
      obtain ⟨tokens, one, row⟩ := ihOne
      obtain ⟨tokens', two, row'⟩ := ihTwo
      refine ⟨tokens ++ tokens', Node.outlineAll_append _ _ ▸ .seq one two, fun rest => ?_⟩
      simp only [List.append_assoc]
      exact row (.blanks blank (row' rest))
  | join _ _ ihOne ihTwo =>
      obtain ⟨tokens, one, row⟩ := ihOne
      obtain ⟨tokens', two, row'⟩ := ihTwo
      refine ⟨tokens ++ tokens', Node.outlineAll_append _ _ ▸ .join one two, fun rest => ?_⟩
      simp only [List.append_assoc]
      exact row (row' rest)
  | altFirst _ ih =>
      obtain ⟨tokens, one, row⟩ := ih
      exact ⟨tokens, .altFirst one, row⟩
  | altSecond _ ih =>
      obtain ⟨tokens, two, row⟩ := ih
      exact ⟨tokens, .altSecond two, row⟩
  | optNone => exact ⟨[], .optNone _, id⟩
  | optSome _ ih =>
      obtain ⟨tokens, one, row⟩ := ih
      exact ⟨tokens, .optSome one, row⟩
  | againNone => exact ⟨[], .againNone _, id⟩
  | againMore blank _ _ ihOne ihMore =>
      obtain ⟨tokens, one, row⟩ := ihOne
      obtain ⟨tokens', more, row'⟩ := ihMore
      refine ⟨tokens ++ tokens', Node.outlineAll_append _ _ ▸ .againMore one more, fun rest => ?_⟩
      simp only [List.append_assoc]
      exact .blanks blank (row (row' rest))

/-! ## Any layout -/

def padded : List (List Char) → List Char
  | [] => [' ']
  | token :: tokens => ' ' :: (token ++ padded tokens)

namespace LexemeRow

variable {tokens : List (List Char)} {cs : List Char}

/-- Blanks may be put around all lexemes of a text. -/
theorem relaid_padded (row : LexemeRow tokens cs) {gap : List Char}
    (blank : ∀ c ∈ gap, isBlank c = true) : Relaid (gap ++ cs) (padded tokens) := by
  have single : ∀ c ∈ [' '], isBlank c = true := List.forall_mem_singleton.2 rfl
  induction row generalizing gap with
  | nil => exact .blanks blank single (fun other => by cases other) .nil
  | @blank c tokens cs first _ ih =>
      have wider : ∀ d ∈ gap ++ [c], isBlank d = true :=
        List.forall_mem_append.2 ⟨blank, List.forall_mem_singleton.2 first⟩
      have relaid := ih wider
      rwa [List.append_assoc] at relaid
  | lexeme lexeme _ ih =>
      exact .blanks blank single (fun other => by cases other)
        (.lexeme lexeme rfl (ih (List.forall_mem_nil _)))

/-- The lexemes of a text are lexemes where they are written with single blanks between them. -/
theorem spell (row : LexemeRow tokens cs) : LexemeRow tokens (Grammar.spell tokens) := by
  induction row with
  | nil => exact .nil
  | blank _ _ ih => exact ih
  | @lexeme look text cs tokens lexeme _ ih =>
      rw [spell_cons]
      refine .lexeme (lexeme.short.append (ended_gap tokens)) ?_
      cases tokens with
      | nil => exact .nil
      | cons next tokens => exact .blank rfl ih

end LexemeRow

/-- A rule that stands in a text with other blanks stands in the text: it comes to an end there, and
would fail in the other text if it failed in this one. -/
theorem exists_gives_of_relaid {rule : Rule} {cs : List Char} {nodes : List Node}
    {here stop : Cursor} (abreast : Abreast cs here.rest)
    (spaced : (Phrase.ref rule).isLoose = true)
    (spans : (Phrase.ref rule).Spans here nodes stop) :
    ∃ outlines left, (Phrase.ref rule).Gives cs outlines left ∧ Relaid left stop.rest := by
  obtain ⟨depth, before, text, after, found⟩ := spans
  have faces : (Phrase.ref rule).Faces Relaid Abreast (Cursor.mk 0 cs).rest here.rest :=
    alike_relaid.faces abreast _
  have mirrors := Phrase.mirrors_of_isLoose alike_relaid spaced
    (depthPerCharacter * (cs.length + 1))
  cases run : matchPhrase (depthPerCharacter * (cs.length + 1)) (.ref rule) ⟨0, cs⟩ {} with
  | exhausted => exact absurd run (parse_ne_exhausted rule cs)
  | failed frontier =>
      have fails : (Phrase.ref rule).Fails here.rest := mirrors.of_eq faces run
      exact (fails.not_matched found).elim
  | matched text' nodes' stop' frontier =>
      obtain ⟨_, left, given, relaid, _⟩ := mirrors.of_eq faces run
      obtain ⟨_, rfl⟩ := given.at.made found
      obtain ⟨outlines, given'⟩ := gives_of_matched run spaced
      exact ⟨outlines, stop'.rest, given', relaid⟩

theorem exists_parse_of_relaid_read {text text' : List Char} (relaid : Relaid text text')
    {tree : Node} (found : parse .cqlFilter text' = .ok [tree]) :
    ∃ tree', parse .cqlFilter text = .ok [tree'] := by
  obtain ⟨_, _, stop, last, _, _, condition, ending⟩ := spans_of_parse found
  obtain ⟨outlines, left, given, relaid'⟩ := exists_gives_of_relaid relaid.abreast rfl condition
  obtain ⟨outlines', left', given', _⟩ := exists_gives_of_relaid relaid'.abreast rfl ending
  have first : (Phrase.ref .booleanExpression).EndsAt (text.dropWhile isBlank) ⟨0, left⟩ :=
    ⟨outlines, left, given, rfl⟩
  have second : (Phrase.ref .endOfInput).EndsAt (left.dropWhile isBlank) ⟨0, left'⟩ :=
    ⟨outlines', left', given', rfl⟩
  exact exists_parse_of_endsAt first second

/-- The tree of a text is made of its lexemes. -/
theorem lexed_of_parse {tree : Node} (found : parse .cqlFilter text = .ok [tree]) :
    Lexed (.ref .cqlFilter) 0 text [tree] [] := by
  obtain ⟨_, _, _, _, ended, matched⟩ := exists_matched_of_parse found
  have lexed := lexed_of_matchPhrase matched rfl fun timed => by cases timed
  rwa [ended] at lexed

/-- A filter over lexemes is read, and the tree has the outline that it was described with. -/
theorem exists_parse_of_lexed {node : Node} (lexed : Lexed (.ref .cqlFilter) 0 text [node] []) :
    ∃ tree, parse .cqlFilter text = .ok [tree] ∧ tree.outline = node.outline := by
  have rows {node : Node} (lexed : Lexed (.ref .cqlFilter) 0 text [node] []) :
      ∃ tokens, Derivation (.ref .cqlFilter) tokens [node.outline] ∧ LexemeRow tokens text := by
    obtain ⟨tokens, derived, row⟩ := lexed.tokens
    have whole := row .nil
    rw [List.append_nil, List.append_nil] at whole
    exact ⟨tokens, derived, whole⟩
  obtain ⟨tokens, derived, row⟩ := rows lexed
  obtain ⟨spelt, read, same⟩ := exists_parse_of_derivation derived
  obtain ⟨_, read', _⟩ :=
    exists_parse_of_relaid (row.spell.relaid_padded (List.forall_mem_nil _)) read
  obtain ⟨tree, found⟩ :=
    exists_parse_of_relaid_read (row.relaid_padded (List.forall_mem_nil _)) read'
  obtain ⟨tokens', derived', row'⟩ := rows (lexed_of_parse found)
  rw [row'.unique row] at derived'
  obtain ⟨spelt', read', same'⟩ := exists_parse_of_derivation derived'
  cases read.symm.trans read'
  exact ⟨tree, found, (List.cons.inj (same'.trans same.symm)).1⟩

end Cql.Grammar
