import Mathlib.Data.List.Forall2
import Cql.Filter.Parse
import Cql.Proofs.Filter.ErrorReport
import Cql.Proofs.Grammar.LexemeRow

/-!
# Filters spelt in another way

A filter may be laid out in another way, and reserved words and names of functions may change their
case. The tokens of its tree stand in the filter one after the other, each as a lexeme, with blanks
and punctuation marks between them. Whatever is respelt token by token has therefore the same
lexemes up to case. It is read again, and its tree differs in the texts of those tokens only.
-/

namespace Cql

open Cql.Grammar

/-- A token of a syntax tree, with the rule of the phrase that it belongs to. -/
structure Leaf where
  parent : Rule
  rule : Rule
  text : String
  deriving DecidableEq, Repr

def Leaf.kind (token : Leaf) : Rule × Rule :=
  (token.parent, token.rule)

namespace Outline

mutual

/-- The tokens of an outline that belongs to a phrase of the given rule. The end of the text is
none. -/
def tokens (parent : Rule) : Outline → List Leaf
  | .leaf rule text => if rule = .endOfInput then [] else [⟨parent, rule, text⟩]
  | .branch rule children => tokensAll rule children

def tokensAll (parent : Rule) : List Outline → List Leaf
  | [] => []
  | outline :: outlines => tokens parent outline ++ tokensAll parent outlines

end

mutual

theorem kinds_bare (parent : Rule) : (outline : Outline) →
    (outline.bare.tokens parent).map Leaf.kind = (outline.tokens parent).map Leaf.kind
  | .leaf rule text => by
      simp only [bare, tokens]
      split <;> rfl
  | .branch rule children => kindsAll_bare rule children

theorem kindsAll_bare (parent : Rule) : (outlines : List Outline) →
    (tokensAll parent (bareAll outlines)).map Leaf.kind
      = (tokensAll parent outlines).map Leaf.kind
  | [] => rfl
  | outline :: outlines => by
      rw [bareAll, tokensAll, tokensAll, List.map_append, List.map_append,
        kinds_bare parent outline, kindsAll_bare parent outlines]

end

theorem tokensAll_append (parent : Rule) (outlines others : List Outline) :
    tokensAll parent (outlines ++ others)
      = tokensAll parent outlines ++ tokensAll parent others := by
  induction outlines with
  | nil => rfl
  | cons outline outlines ih =>
      rw [List.cons_append, tokensAll, tokensAll, ih, List.append_assoc]

end Outline

def Node.tokens (tree : Node) : List Leaf :=
  tree.outline.tokens .cqlFilter

namespace Leaf

/-- Whether the case of letters does not matter in the token: it is a reserved word or the name of a
function. -/
def isCaseless (token : Leaf) : Bool :=
  isReserved token.rule || (token.parent == .function && token.rule == .identifier)

/-- The text may stand in place of the token. -/
def Spelt (token : Leaf) (text : String) : Prop :=
  text = token.text ∨
    (token.isCaseless = true ∧ lowered text.toList = lowered token.text.toList)

/-- The other token is the token in another spelling. -/
def Respelt (token other : Leaf) : Prop :=
  other.kind = token.kind ∧ token.Spelt other.text

theorem Spelt.lowered {token : Leaf} {text : String} (spelt : token.Spelt text) :
    lowered token.text.toList = lowered text.toList := by
  rcases spelt with rfl | ⟨_, same⟩
  · rfl
  · exact same.symm

end Leaf

namespace Filter

/-- The second text has the tokens of the first in another spelling. Blanks may be put in anywhere
between tokens, and blanks of the first text may be replaced by others. -/
inductive Respelt : List Leaf → List Char → List Char → Prop where
  | nil : Respelt [] [] []
  | blanks {gap gap' cs cs' : List Char} {tokens : List Leaf}
      (blank : ∀ c ∈ gap, isBlank c = true) (blank' : ∀ c ∈ gap', isBlank c = true)
      (kept : gap' = [] → gap = []) (more : Respelt tokens cs cs') :
      Respelt tokens (gap ++ cs) (gap' ++ cs')
  | mark {mark : Char} {cs cs' : List Char} {tokens : List Leaf} (marks : mark ∈ ['(', ')', ','])
      (more : Respelt tokens cs cs') : Respelt tokens (mark :: cs) (mark :: cs')
  | token {token : Leaf} {text' : String} {cs cs' : List Char} {tokens : List Leaf}
      (spelt : token.Spelt text') (more : Respelt tokens cs cs') :
      Respelt (token :: tokens) (token.text.toList ++ cs) (text'.toList ++ cs')

/-! ## Tokens in a text -/

/-- Whether the character is a blank or a punctuation mark. -/
def isSeparator (c : Char) : Bool :=
  isBlank c || ['(', ')', ','].contains c

/-- The tokens stand in the text in their order, each as a lexeme, with blanks and punctuation marks
between them. -/
inductive Standing : List Leaf → List Char → Prop where
  | nil : Standing [] []
  | separator {c : Char} {tokens : List Leaf} {cs : List Char} (separates : isSeparator c = true)
      (more : Standing tokens cs) : Standing tokens (c :: cs)
  | token {token : Leaf} {look : Look} {tokens : List Leaf} {cs : List Char}
      (among : look ∈ looksOf token.rule) (lexeme : IsLexeme look token.text.toList cs)
      (more : Standing tokens cs) : Standing (token :: tokens) (token.text.toList ++ cs)

/-- No token begins as a separator does. -/
theorem isSeparator_of_look {c : Char} {rule : Rule} (among : look c ∈ looksOf rule) :
    isSeparator c = false := by
  have plain : ((looksOf rule).all fun kind =>
      !List.contains [Look.blank, .opening, .closing, .comma] kind) = true := by
    cases rule <;> rfl
  have other := List.all_eq_true.1 plain _ among
  rw [Bool.eq_false_iff]
  intro separates
  rcases Bool.or_eq_true_iff.1 separates with blank | mark
  · rw [show look c = .blank from if_pos blank] at other
    cases other
  · rw [List.contains_iff_mem] at mark
    simp only [List.mem_cons, List.not_mem_nil, or_false] at mark
    rcases mark with rfl | rfl | rfl <;> cases other

namespace Standing

variable {tokens : List Leaf} {cs rest : List Char} {token : Leaf}

theorem exists_head (standing : Standing tokens cs) (member : token ∈ tokens) :
    ∃ c text, token.text.toList = c :: text ∧ look c ∈ looksOf token.rule := by
  induction standing with
  | nil => cases member
  | separator _ _ ih => exact ih member
  | @token first kind tokens cs among lexeme _ ih =>
      rcases List.mem_cons.1 member with rfl | later
      · obtain ⟨c, text, whole⟩ := List.exists_cons_of_ne_nil lexeme.ne_nil
        refine ⟨c, text, whole, ?_⟩
        rw [whole] at lexeme
        rw [lexeme.look_eq]
        exact among
      · exact ih later

theorem behind_separator {c : Char} (standing : Standing tokens (c :: cs))
    (separates : isSeparator c = true) : Standing tokens cs := by
  generalize whole : c :: cs = text at standing
  cases standing with
  | nil => cases whole
  | separator _ more =>
      cases whole
      exact more
  | @token first kind tokens left among lexeme _ =>
      obtain ⟨d, text, head⟩ := List.exists_cons_of_ne_nil lexeme.ne_nil
      rw [head] at whole lexeme
      cases whole
      rw [← lexeme.look_eq] at among
      rw [isSeparator_of_look among] at separates
      cases separates

theorem behind_separators {gap : List Char} (separate : ∀ c ∈ gap, isSeparator c = true)
    (standing : Standing tokens (gap ++ cs)) : Standing tokens cs := by
  induction gap with
  | nil => exact standing
  | cons c gap ih =>
      obtain ⟨first, others⟩ := List.forall_mem_cons.1 separate
      exact ih others (standing.behind_separator first)

theorem separators {gap : List Char} (separate : ∀ c ∈ gap, isSeparator c = true)
    (standing : Standing tokens cs) : Standing tokens (gap ++ cs) := by
  induction gap with
  | nil => exact standing
  | cons c gap ih =>
      obtain ⟨first, others⟩ := List.forall_mem_cons.1 separate
      exact .separator first (ih others)

theorem exists_first {c : Char} (standing : Standing (token :: tokens) (c :: cs))
    (plain : isSeparator c = false) : ∃ look ∈ looksOf token.rule, ∃ rest,
      c :: cs = token.text.toList ++ rest ∧ IsLexeme look token.text.toList rest ∧
        Standing tokens rest := by
  generalize whole : c :: cs = text at standing
  cases standing with
  | separator separates _ =>
      cases whole
      rw [plain] at separates
      cases separates
  | token among lexeme more => exact ⟨_, among, _, rfl, lexeme, more⟩

/-- A text that begins as the first token does begins with that token. -/
theorem first (standing : Standing (token :: tokens) (token.text.toList ++ cs)) :
    ∃ look ∈ looksOf token.rule, IsLexeme look token.text.toList cs ∧ Standing tokens cs := by
  obtain ⟨c, text, head, among⟩ := standing.exists_head List.mem_cons_self
  rw [head, List.cons_append] at standing
  obtain ⟨kind, among, rest, whole, lexeme, more⟩ :=
    standing.exists_first (isSeparator_of_look among)
  rw [← List.cons_append, ← head] at whole
  rw [List.append_cancel_left whole]
  exact ⟨kind, among, lexeme, more⟩

theorem eq_of_lexeme {text : List Char} (standing : Standing (token :: tokens) (text ++ cs))
    {look : Look} {rule : Rule} (among : look ∈ looksOf rule) (lexeme : IsLexeme look text cs) :
    token.text.toList = text ∧ Standing tokens cs := by
  obtain ⟨c, text, rfl⟩ := List.exists_cons_of_ne_nil lexeme.ne_nil
  rw [← lexeme.look_eq] at among
  obtain ⟨kind, _, rest, whole, lexeme', more⟩ := standing.exists_first (isSeparator_of_look among)
  obtain ⟨d, text', head⟩ := List.exists_cons_of_ne_nil lexeme'.ne_nil
  rw [head] at whole lexeme' ⊢
  obtain rfl : c = d := (List.cons.inj whole).1
  obtain rfl := lexeme.look_eq.symm.trans lexeme'.look_eq
  have found : look.lexeme.scan (c :: text ++ cs) = some (c :: text', rest) :=
    (congrArg look.lexeme.scan whole).trans lexeme'
  obtain ⟨same, left⟩ := Prod.mk.inj (Option.some.inj (found.symm.trans lexeme))
  rw [← left]
  exact ⟨same, more⟩

end Standing

/-! ## Tokens of a match -/

theorem isSeparator_of_isBlank {c : Char} (blank : isBlank c = true) : isSeparator c = true :=
  Bool.or_eq_true_iff.2 (.inl blank)

theorem isSeparator_of_mem {c : Char} (mark : c ∈ ['(', ')', ',']) : isSeparator c = true :=
  Bool.or_eq_true_iff.2 (.inr (List.contains_iff_mem.2 mark))

/-- The tokens that a phrase is made of stand in front of the others. -/
theorem Standing.lexed {phrase : Phrase} {offset : Nat} {text left : List Char} {nodes : List Node}
    (lexed : Lexed phrase offset text nodes left) (parent : Rule) {tokens : List Leaf}
    (standing : Standing tokens left) :
    Standing (Outline.tokensAll parent (Node.outlineAll nodes) ++ tokens) (text ++ left) := by
  have separators {gap : List Char} (blank : ∀ c ∈ gap, isBlank c = true) :
      ∀ c ∈ gap, isSeparator c = true := fun c among => isSeparator_of_isBlank (blank c among)
  induction lexed generalizing parent tokens with
  | start | ending _ | optNone | againNone => exact standing
  | symbol marks => exact .separator (isSeparator_of_mem marks) standing
  | @token rule look offset text left reads among lexeme =>
      obtain ⟨visible, pattern, defined, whole⟩ := reads
      have ending : rule ≠ .endOfInput := by
        rintro rfl
        cases defined
        exact visible (Pattern.takes_of_scan _ whole)
      have same : (Leaf.mk parent rule (String.ofList text)).text.toList = text :=
        String.toList_ofList
      have first := @Standing.token ⟨parent, rule, String.ofList text⟩ look tokens left among
        (same.symm ▸ lexeme) standing
      rw [same] at first
      simpa only [Node.outlineAll, Node.outline, defined, Outline.tokensAll, Outline.tokens,
        if_neg ending, List.append_nil, List.singleton_append] using first
  | @phrase rule body offset text left nodes defined _ ih =>
      have inner := ih rule standing
      simpa only [Node.outlineAll, Node.outline, defined, Outline.tokensAll, Outline.tokens,
        List.append_nil] using inner
  | seq _ blank _ ihOne ihTwo =>
      simp only [Node.outlineAll_append, Outline.tokensAll_append, List.append_assoc]
      exact ihOne parent ((ihTwo parent standing).separators (separators blank))
  | join _ _ ihOne ihTwo =>
      simp only [Node.outlineAll_append, Outline.tokensAll_append, List.append_assoc]
      exact ihOne parent (ihTwo parent standing)
  | altFirst _ ih | altSecond _ ih | optSome _ ih => exact ih parent standing
  | againMore blank _ _ ihOne ihMore =>
      simp only [Node.outlineAll_append, Outline.tokensAll_append, List.append_assoc]
      exact (ihOne parent (ihMore parent standing)).separators (separators blank)

/-! ## Respelt texts have the same lexemes -/

variable {tokens : List Leaf} {cs cs' : List Char}

/-- A punctuation mark is a lexeme whatever follows. -/
theorem lexeme_mark {c : Char} (mark : c ∈ ['(', ')', ',']) (rest : List Char) :
    IsLexeme (look c) [c] rest := by
  simp only [List.mem_cons, List.not_mem_nil, or_false] at mark
  rcases mark with rfl | rfl | rfl <;> rfl

/-- A text is a spelling of itself. -/
theorem Standing.respelt (standing : Standing tokens cs) : Respelt tokens cs cs := by
  induction standing with
  | nil => exact .nil
  | @separator c tokens cs separates _ ih =>
      rcases Bool.or_eq_true_iff.1 separates with blank | mark
      · have single : ∀ d ∈ [c], isBlank d = true := List.forall_mem_singleton.2 blank
        exact .blanks single single id ih
      · exact .mark (List.contains_iff_mem.1 mark) ih
  | token _ _ _ ih => exact .token (.inl rfl) ih

/-- A respelt text has the lexemes of the text up to case. -/
theorem Respelt.relaid (respelt : Respelt tokens cs cs') (standing : Standing tokens cs) :
    Relaid cs cs' := by
  induction respelt with
  | nil => exact .nil
  | blanks blank blank' kept _ ih =>
      exact .blanks blank blank' kept
        (ih (standing.behind_separators fun c among => isSeparator_of_isBlank (blank c among)))
  | @mark mark cs cs' tokens marks _ ih =>
      exact .lexeme (lexeme_mark marks cs) rfl (ih (standing.behind_separator
        (isSeparator_of_mem marks)))
  | token spelt _ ih =>
      obtain ⟨kind, _, lexeme, more⟩ := standing.first
      exact .lexeme lexeme spelt.lowered (ih more)

theorem Respelt.forall₂ (respelt : Respelt tokens cs cs') (standing : Standing tokens cs)
    {tokens' : List Leaf} (standing' : Standing tokens' cs')
    (kinds : tokens'.map Leaf.kind = tokens.map Leaf.kind) :
    List.Forall₂ Leaf.Respelt tokens tokens' := by
  induction respelt generalizing tokens' with
  | nil =>
      rw [List.map_eq_nil_iff.1 kinds]
      exact .nil
  | blanks blank blank' _ _ ih =>
      exact ih (standing.behind_separators fun c among => isSeparator_of_isBlank (blank c among))
        (standing'.behind_separators fun c among => isSeparator_of_isBlank (blank' c among)) kinds
  | mark marks _ ih =>
      have separates := isSeparator_of_mem marks
      exact ih (standing.behind_separator separates) (standing'.behind_separator separates) kinds
  | @token token text' cs cs' tokens spelt more ih =>
      cases tokens' with
      | nil => cases kinds
      | cons first tokens' =>
          obtain ⟨kind, kinds⟩ := List.cons.inj kinds
          obtain ⟨look, among, lexeme, standing⟩ := standing.first
          have lexeme' := (more.relaid standing).lexeme_second lexeme spelt.lowered
          obtain ⟨same, standing'⟩ := standing'.eq_of_lexeme among lexeme'
          rw [← String.toList_inj.1 same] at spelt
          exact .cons ⟨kind, spelt⟩ (ih standing standing' kinds)

/-! ## Reading a respelt filter -/

theorem standing_of_parse {text : List Char} {tree : Node}
    (found : Grammar.parse .cqlFilter text = .ok [tree]) : Standing tree.tokens text := by
  have standing := Standing.nil.lexed (lexed_of_parse found) .cqlFilter
  simpa only [Node.outlineAll, Outline.tokensAll, List.append_nil, Node.tokens] using standing

theorem respelt_self {filter : String} {tree : Node} (found : parse filter = .ok tree) :
    Respelt tree.tokens filter.toList filter.toList :=
  (standing_of_parse (parse_eq_ok_iff.1 found).2).respelt

/-- A filter in another spelling is read, and its tree has the same rules and the tokens in their
other spelling. -/
theorem exists_parse_of_respelt {filter other : String} {tree : Node}
    (found : parse filter = .ok tree)
    (respelt : Respelt tree.tokens filter.toList other.toList) :
    ∃ tree', parse other = .ok tree' ∧ tree'.outline.bare = tree.outline.bare ∧
      List.Forall₂ Leaf.Respelt tree.tokens tree'.tokens := by
  obtain ⟨shallow, read⟩ := parse_eq_ok_iff.1 found
  have standing := standing_of_parse read
  have relaid := respelt.relaid standing
  have shallow' := (firstOverdeep_of_relaid relaid nestingLimit).1 shallow
  obtain ⟨tree', read', bare⟩ := exists_parse_of_relaid relaid read
  have kinds : tree'.tokens.map Leaf.kind = tree.tokens.map Leaf.kind :=
    (Outline.kinds_bare _ _).symm.trans (bare ▸ Outline.kinds_bare _ _)
  exact ⟨tree', parse_eq_ok_iff.2 ⟨shallow', read'⟩, bare,
    respelt.forall₂ standing (standing_of_parse read') kinds⟩

end Filter

end Cql
