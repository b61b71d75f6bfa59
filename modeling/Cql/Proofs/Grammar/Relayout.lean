import Cql.Proofs.Grammar.Layout
import Cql.Proofs.Grammar.Lexeme
import Cql.Proofs.Grammar.Recognition

/-!
# Other blanks and other case

Two texts that have the same lexemes up to case, with blanks in the second wherever the first has
some, are matched alike. Each rule for tokens takes as much of the one as of the other or fails on
both, and the phrases follow: what the matcher finds or gives up in the first text it finds or gives
up in the second.
-/

namespace Cql

namespace Grammar

/-- The second text has the lexemes of the first up to case and in their order. Between lexemes it
has any number of blanks, and some where the first has some. -/
inductive Relaid : List Char → List Char → Prop where
  | nil : Relaid [] []
  | blanks {gap gap' rest rest' : List Char} (blank : ∀ c ∈ gap, isBlank c = true)
      (blank' : ∀ c ∈ gap', isBlank c = true) (kept : gap' = [] → gap = [])
      (more : Relaid rest rest') : Relaid (gap ++ rest) (gap' ++ rest')
  | lexeme {look : Look} {text text' rest rest' : List Char} (lexeme : IsLexeme look text rest)
      (same : lowered text = lowered text') (more : Relaid rest rest') :
      Relaid (text ++ rest) (text' ++ rest')

/-- Both texts are at their end, or both begin with a lexeme. -/
inductive Abreast : List Char → List Char → Prop where
  | nil : Abreast [] []
  | lexeme {look : Look} {text text' rest rest' : List Char} (lexeme : IsLexeme look text rest)
      (same : lowered text = lowered text') (more : Relaid rest rest') :
      Abreast (text ++ rest) (text' ++ rest')

namespace Relaid

variable {cs cs' : List Char}

/-- Up to a blank of the second text or its end, the two texts agree up to case. -/
theorem exists_run (relaid : Relaid cs cs') :
    ∃ run left run' left', cs = run ++ left ∧ cs' = run' ++ left' ∧ lowered run = lowered run' ∧
      Ended left' := by
  induction relaid with
  | nil => exact ⟨[], [], [], [], rfl, rfl, rfl, fun c next => by cases next⟩
  | @blanks gap gap' rest rest' blank blank' kept _ ih =>
      cases gap' with
      | nil =>
          rw [kept rfl]
          exact ih
      | cons c gap' =>
          refine ⟨[], _, [], _, rfl, rfl, rfl, fun d next => ?_⟩
          cases next
          exact isBlank_iff_mem.1 (blank' c List.mem_cons_self)
  | @lexeme look text text' rest rest' _ same _ ih =>
      obtain ⟨run, left, run', left', rfl, rfl, agree, ended⟩ := ih
      refine ⟨text ++ run, left, text' ++ run', left', ?_, ?_, ?_, ended⟩
      · rw [List.append_assoc]
      · rw [List.append_assoc]
      · rw [lowered_append, lowered_append, same, agree]

theorem lexeme_second {look : Look} {text text' rest rest' : List Char} (relaid : Relaid rest rest')
    (lexeme : IsLexeme look text rest) (same : lowered text = lowered text') :
    IsLexeme look text' rest' := by
  obtain ⟨run, left, run', left', rfl, rfl, agree, ended⟩ := relaid.exists_run
  exact (lexeme.cut.recase same agree).append ended

end Relaid

theorem IsLexeme.dropWhile {look : Look} {text rest : List Char}
    (lexeme : IsLexeme look text rest) :
    (text ++ rest).dropWhile isBlank = text ++ rest := by
  obtain ⟨c, cs, rfl⟩ := List.exists_cons_of_ne_nil lexeme.ne_nil
  refine List.dropWhile_cons_of_neg fun blank => ?_
  have looks : Grammar.look c = .blank := if_pos blank
  rw [lexeme.look_eq] at looks
  subst looks
  cases lexeme

namespace Relaid

variable {cs cs' : List Char}

/-- Without the blanks in front, both texts are at their end or begin with a lexeme. -/
theorem abreast (relaid : Relaid cs cs') :
    Abreast (cs.dropWhile isBlank) (cs'.dropWhile isBlank) := by
  induction relaid with
  | nil => exact .nil
  | blanks blank blank' _ _ ih =>
      rwa [List.dropWhile_append_of_pos blank, List.dropWhile_append_of_pos blank']
  | lexeme lexeme same more _ =>
      rw [lexeme.dropWhile, (more.lexeme_second lexeme same).dropWhile]
      exact .lexeme lexeme same more

end Relaid

namespace Abreast

variable {cs cs' : List Char}

theorem relaid (abreast : Abreast cs cs') : Relaid cs cs' := by
  cases abreast with
  | nil => exact .nil
  | lexeme lexeme same more => exact .lexeme lexeme same more

theorem isCaseless_definition (rule : Rule) :
    (match definition rule with
      | .token pattern => pattern.isCaseless
      | _ => true) = true := by
  cases rule with
  | keyword word => cases word <;> rfl
  | _ => rfl

/-- A rule for tokens takes as much of the one text as of the other, or fails on both. -/
theorem scan {rule : Rule} {pattern : Pattern} (defined : definition rule = .token pattern)
    (abreast : Abreast cs cs') :
    Option.Rel (fun found found' => Relaid found.2 found'.2) (pattern.scan cs)
      (pattern.scan cs') := by
  cases abreast with
  | nil =>
      cases found : pattern.scan [] with
      | none => exact .none
      | some pair =>
          refine .some ?_
          rw [(List.append_eq_nil_iff.1 (pattern.eq_append_of_scan found).symm).2]
          exact .nil
  | @lexeme look text text' rest rest' lexeme same more =>
      have lexeme' := more.lexeme_second lexeme same
      by_cases ending : rule = .endOfInput
      · subst ending
        cases defined
        obtain ⟨c, cs, rfl⟩ := List.exists_cons_of_ne_nil lexeme.ne_nil
        obtain ⟨c', cs', rfl⟩ := List.exists_cons_of_ne_nil lexeme'.ne_nil
        exact .none
      · have caseless := isCaseless_definition rule
        rw [defined] at caseless
        have both := Pattern.scan_recased caseless same
        rcases scan_of_lexeme defined ending lexeme with
          ⟨fits, fails⟩ | ⟨taken, left, scanned, takes, last⟩
        · rw [fits] at both
          rcases scan_of_lexeme defined ending lexeme' with ⟨_, fails'⟩ | ⟨_, _, scanned, _⟩
          · rw [fails, fails']
            exact .none
          · rw [scanned] at both
            cases both
        · rw [scanned] at both
          rcases scan_of_lexeme defined ending lexeme' with
            ⟨missed, _⟩ | ⟨_, left', again, takes', _⟩
          · rw [missed] at both
            cases both
          · rw [again] at both
            rw [takes, takes']
            cases both with
            | some agree =>
                refine .some ?_
                rcases last with rfl | lexeme
                · obtain rfl : left' = [] := List.map_eq_nil_iff.1 agree.2.symm
                  exact more
                · exact .lexeme lexeme agree.2 more

/-- A punctuation mark stands at the front of both texts or of none. -/
theorem symbol {mark : Char} (marks : mark ∈ ['(', ')', ',']) (abreast : Abreast cs cs') :
    (∃ left left', cs = mark :: left ∧ cs' = mark :: left' ∧ Relaid left left') ∨
      ((∀ left, cs ≠ mark :: left) ∧ ∀ left, cs' ≠ mark :: left) := by
  cases abreast with
  | nil => exact .inr ⟨fun left => (List.cons_ne_nil mark left).symm,
      fun left => (List.cons_ne_nil mark left).symm⟩
  | @lexeme look text text' rest rest' lexeme same more =>
      obtain ⟨c, cs, rfl⟩ := List.exists_cons_of_ne_nil lexeme.ne_nil
      obtain ⟨c', cs', rfl, letter, others⟩ := lowered_cons same
      have plain : mark.isAlpha = false := by
        simp only [List.mem_cons, List.not_mem_nil, or_false] at marks
        rcases marks with rfl | rfl | rfl <;> rfl
      have agree := eq_mark_iff letter plain
      by_cases here : c = mark
      · have there := agree.1 here
        subst here
        have single : cs = [] := by
          have kind := lexeme.look_eq
          simp only [List.mem_cons, List.not_mem_nil, or_false] at marks
          rcases marks with rfl | rfl | rfl <;> subst kind <;>
            exact (List.cons.inj (Pattern.takes_of_scan _ lexeme)).2
        subst single
        obtain rfl := List.map_eq_nil_iff.1 others.symm
        exact .inl ⟨rest, rest', rfl, by rw [there]; rfl, more⟩
      · exact .inr ⟨fun left equal => here (List.cons.inj equal).1,
          fun left equal => here (agree.2 (List.cons.inj equal).1)⟩

end Abreast

/-! ## Phrases -/

/-- Two texts cannot be told apart by tokens, punctuation marks and blanks. Where blanks may stand
in front, the texts are related loosely, and behind the blanks tightly. -/
structure Alike (loose tight : List Char → List Char → Prop) : Prop where
  loosen : ∀ {cs cs' : List Char}, tight cs cs' → loose cs cs'
  skip : ∀ {cs cs' : List Char}, loose cs cs' →
    tight (cs.dropWhile isBlank) (cs'.dropWhile isBlank)
  scan : ∀ {rule : Rule} {pattern : Pattern} {cs cs' : List Char},
    definition rule = .token pattern → tight cs cs' →
      Option.Rel (fun found found' => loose found.2 found'.2) (pattern.scan cs) (pattern.scan cs')
  symbol : ∀ {mark : Char} {cs cs' : List Char}, mark ∈ ['(', ')', ','] → tight cs cs' →
    (∃ left left', cs = mark :: left ∧ cs' = mark :: left' ∧ loose left left') ∨
      ((∀ left, cs ≠ mark :: left) ∧ ∀ left, cs' ≠ mark :: left)

/-- Texts with the same lexemes cannot be told apart. -/
theorem alike_relaid : Alike Relaid Abreast where
  loosen := Abreast.relaid
  skip := Relaid.abreast
  scan := Abreast.scan
  symbol := Abreast.symbol

/-- A text cannot be told from itself. -/
theorem alike_eq : Alike Eq Eq where
  loosen := id
  skip := congrArg _
  scan := by
    rintro rule pattern cs _ _ rfl
    cases pattern.scan cs with
    | none => exact .none
    | some found => exact .some rfl
  symbol := by
    rintro mark cs _ _ rfl
    by_cases stands : ∃ left, cs = mark :: left
    · obtain ⟨left, rfl⟩ := stands
      exact .inl ⟨left, left, rfl, rfl, rfl⟩
    · have other : ∀ left, cs ≠ mark :: left := fun left same => stands ⟨left, same⟩
      exact .inr ⟨other, other⟩

variable {loose tight : List Char → List Char → Prop}

def Phrase.isAgain : Phrase → Bool
  | .again _ => true
  | .start | .symbol _ | .text _ | .ref _ | .seq _ _ | .join _ _ | .alt _ _ | .opt _ => false

/-- Whether blanks may stand between all parts of the phrase. -/
def Phrase.isLoose : Phrase → Bool
  | .start | .text _ => false
  | .symbol mark => ['(', ')', ','].contains mark
  | .ref rule =>
      rule != .cqlFilter && match definition rule with
        | .fragment _ => false
        | _ => true
  | .seq first second | .alt first second => first.isLoose && second.isLoose
  | .join first second => first.isLoose && second.isLoose && second.isAgain
  | .opt inner | .again inner => inner.isLoose

theorem isLoose_definition (rule : Rule) :
    (rule == .cqlFilter || match definition rule with
      | .phrase body => body.isLoose
      | _ => true) = true := by
  cases rule <;> rfl

/-- The two texts as they may stand where the phrase is tried. -/
def Phrase.Faces (loose tight : List Char → List Char → Prop) :
    Phrase → List Char → List Char → Prop
  | .again _, cs, cs' => loose cs cs'
  | _, cs, cs' => tight cs cs'

theorem Alike.faces (alike : Alike loose tight) {cs cs' : List Char} (related : tight cs cs')
    (phrase : Phrase) : phrase.Faces loose tight cs cs' := by
  cases phrase with
  | again inner => exact alike.loosen related
  | _ => exact related

theorem Phrase.faces_of_isAgain {phrase : Phrase} (again : phrase.isAgain = true)
    {cs cs' : List Char} (related : loose cs cs') : phrase.Faces loose tight cs cs' := by
  cases phrase with
  | again inner => exact related
  | _ => cases again

end Grammar

namespace Outline

mutual

def bare : Outline → Outline
  | .leaf rule _ => .leaf rule ""
  | .branch rule children => .branch rule (bareAll children)

def bareAll : List Outline → List Outline
  | [] => []
  | outline :: outlines => bare outline :: bareAll outlines

end

theorem bareAll_append (outlines others : List Outline) :
    bareAll (outlines ++ others) = bareAll outlines ++ bareAll others := by
  induction outlines with
  | nil => rfl
  | cons outline outlines ih => rw [List.cons_append, bareAll, bareAll, ih, List.cons_append]

theorem bareAll_nodes_append {outlines outlines' : List Outline} {nodes nodes' : List Node}
    (same : bareAll outlines = bareAll (Node.outlineAll nodes))
    (same' : bareAll outlines' = bareAll (Node.outlineAll nodes')) :
    bareAll (outlines ++ outlines') = bareAll (Node.outlineAll (nodes ++ nodes')) := by
  rw [bareAll_append, Node.outlineAll_append, bareAll_append, same, same']

end Outline

namespace Grammar

variable {loose tight : List Char → List Char → Prop}

/-- What became of the phrase becomes of it at the other text: it fails there too, or gives the same
outlines up to the texts of tokens and leaves what goes with what is left here. -/
def Outcome.Mirrored (loose : List Char → List Char → Prop) (phrase : Phrase) (cs' : List Char) :
    Outcome → Prop
  | .matched _ nodes stop _ => ∃ outlines left, phrase.Gives cs' outlines left ∧
      loose stop.rest left ∧ Outline.bareAll outlines = Outline.bareAll (Node.outlineAll nodes)
  | .failed _ => phrase.Fails cs'
  | .exhausted => True

/-- Up to the given depth, the phrase is matched alike in both texts. -/
def Phrase.Mirrors (loose tight : List Char → List Char → Prop) (phrase : Phrase) (depth : Nat) :
    Prop :=
  ∀ ⦃here : Cursor⦄ ⦃cs' : List Char⦄, phrase.Faces loose tight here.rest cs' →
    ∀ before : Frontier, (matchPhrase depth phrase here before).Mirrored loose phrase cs'

namespace Phrase

variable {depth : Nat} {first second inner body : Phrase} {rule : Rule}

theorem Mirrors.of_eq {phrase : Phrase} {here : Cursor} {cs' : List Char} {before : Frontier}
    {outcome : Outcome} (mirrors : phrase.Mirrors loose tight depth)
    (faces : phrase.Faces loose tight here.rest cs')
    (same : matchPhrase depth phrase here before = outcome) :
    outcome.Mirrored loose phrase cs' := by
  subst same
  exact mirrors faces before

theorem mirrors_of_step {phrase : Phrase}
    (mirrored : ∀ {here : Cursor} {cs' : List Char} {before : Frontier} {outcome : Outcome},
      phrase.Faces loose tight here.rest cs' → MatchStep depth phrase here before outcome →
        outcome.Mirrored loose phrase cs') : phrase.Mirrors loose tight (depth + 1) :=
  fun _ _ faces _ => mirrored faces (matchStep_of_matchPhrase rfl)

theorem mirrors_symbol (alike : Alike loose tight) {mark : Char} (marks : mark ∈ ['(', ')', ',']) :
    (symbol mark).Mirrors loose tight (depth + 1) := by
  refine mirrors_of_step fun faces step => ?_
  rcases alike.symbol marks faces with ⟨left, left', whole, rfl, more⟩ | ⟨other, other'⟩
  · cases step with
    | cut => trivial
    | symbolFails other => exact absurd whole (other left)
    | symbol whole' =>
        cases whole'.symm.trans whole
        exact ⟨[], left', gives_symbol mark left', more, rfl⟩
  · cases step with
    | cut => trivial
    | symbolFails _ => exact fails_symbol other'
    | symbol whole => exact absurd whole (other _)

theorem mirrors_token (alike : Alike loose tight) {pattern : Pattern}
    (defined : definition rule = .token pattern) :
    (ref rule).Mirrors loose tight (depth + 1) := by
  intro here cs' faces before
  have both := alike.scan defined faces
  simp only [matchPhrase, defined, matchPattern]
  generalize found : pattern.scan here.rest = one at both ⊢
  generalize found' : pattern.scan cs' = two at both
  cases both with
  | none => exact fails_token defined found'
  | some related =>
      refine ⟨_, _, gives_token defined found', related, ?_⟩
      simp only [Outline.bareAll, Outline.bare, Node.outlineAll, Node.outline, defined]

theorem Mirrors.phrase (alike : Alike loose tight) (defined : definition rule = .phrase body)
    (inner : body.Mirrors loose tight depth) : (ref rule).Mirrors loose tight (depth + 1) := by
  intro here cs' faces before
  simp only [matchPhrase, defined]
  cases found : matchPhrase depth body here before with
  | exhausted => trivial
  | failed frontier => exact Fails.phrase defined (inner.of_eq (alike.faces faces body) found)
  | matched text nodes stop frontier =>
      obtain ⟨outlines, left, given, related, same⟩ := inner.of_eq (alike.faces faces body) found
      refine ⟨_, left, given.phrase defined, related, ?_⟩
      simp only [Outline.bareAll, Outline.bare, Node.outlineAll, Node.outline, defined, same]

theorem Mirrors.seq (alike : Alike loose tight) (one : first.Mirrors loose tight depth)
    (two : second.Mirrors loose tight depth) :
    (Phrase.seq first second).Mirrors loose tight (depth + 1) := by
  refine mirrors_of_step fun faces step => ?_
  have front := alike.faces faces first
  cases step with
  | cut => trivial
  | seqFirst failed => exact Fails.seq_first (one.of_eq front failed)
  | seqSecond found failed =>
      obtain ⟨outlines, left, given, related, _⟩ := one.of_eq front found
      exact Fails.seq_second given (two.of_eq (alike.faces (alike.skip related) second) failed)
  | seq found next =>
      obtain ⟨outlines, left, given, related, same⟩ := one.of_eq front found
      obtain ⟨outlines', left', given', related', same'⟩ :=
        two.of_eq (alike.faces (alike.skip related) second) next
      exact ⟨outlines ++ outlines', left', given.seq given', related',
        Outline.bareAll_nodes_append same same'⟩

theorem Mirrors.join (alike : Alike loose tight) (one : first.Mirrors loose tight depth)
    (two : second.Mirrors loose tight depth) (again : second.isAgain = true) :
    (Phrase.join first second).Mirrors loose tight (depth + 1) := by
  refine mirrors_of_step fun faces step => ?_
  have front := alike.faces faces first
  cases step with
  | cut => trivial
  | joinFirst failed => exact Fails.join_first (one.of_eq front failed)
  | joinSecond found failed =>
      obtain ⟨outlines, left, given, related, _⟩ := one.of_eq front found
      exact Fails.join_second given (two.of_eq (faces_of_isAgain again related) failed)
  | join found next =>
      obtain ⟨outlines, left, given, related, same⟩ := one.of_eq front found
      obtain ⟨outlines', left', given', related', same'⟩ :=
        two.of_eq (faces_of_isAgain again related) next
      exact ⟨outlines ++ outlines', left', given.join given', related',
        Outline.bareAll_nodes_append same same'⟩

theorem Mirrors.alt (alike : Alike loose tight) (one : first.Mirrors loose tight depth)
    (two : second.Mirrors loose tight depth) :
    (Phrase.alt first second).Mirrors loose tight (depth + 1) := by
  refine mirrors_of_step fun {_ _ _ outcome} faces step => ?_
  cases step with
  | cut => trivial
  | altFirst found =>
      obtain ⟨outlines, left, given, rest⟩ := one.of_eq (alike.faces faces first) found
      exact ⟨outlines, left, given.alt_first, rest⟩
  | altSecond failed next =>
      have front := one.of_eq (alike.faces faces first) failed
      have back := two.of_eq (alike.faces faces second) next
      cases outcome with
      | exhausted => trivial
      | failed frontier => exact Fails.alt front back
      | matched text nodes stop frontier =>
          obtain ⟨outlines, left, given, rest⟩ := back
          exact ⟨outlines, left, given.alt_second front, rest⟩

theorem Mirrors.opt (alike : Alike loose tight) (one : inner.Mirrors loose tight depth) :
    (Phrase.opt inner).Mirrors loose tight (depth + 1) := by
  refine mirrors_of_step fun faces step => ?_
  have part := alike.faces faces inner
  cases step with
  | cut => trivial
  | optNone failed => exact ⟨[], _, (one.of_eq part failed).opt, alike.loosen faces, rfl⟩
  | optSome found =>
      obtain ⟨outlines, left, given, rest⟩ := one.of_eq part found
      exact ⟨outlines, left, given.opt, rest⟩

theorem Mirrors.again (alike : Alike loose tight) (one : inner.Mirrors loose tight depth)
    (more : (Phrase.again inner).Mirrors loose tight depth) :
    (Phrase.again inner).Mirrors loose tight (depth + 1) := by
  refine mirrors_of_step fun related step => ?_
  have round := alike.faces (alike.skip related) inner
  cases step with
  | cut => trivial
  | againNone failed => exact ⟨[], _, (one.of_eq round failed).again, related, rfl⟩
  | againMore found next =>
      obtain ⟨outlines, left, given, related', same⟩ := one.of_eq round found
      obtain ⟨outlines', left', given', related', same'⟩ := more.of_eq related' next
      exact ⟨outlines ++ outlines', left', given.again given', related',
        Outline.bareAll_nodes_append same same'⟩

/-- Phrases are matched alike in both texts. -/
theorem mirrors_of_isLoose (alike : Alike loose tight) {phrase : Phrase}
    (spaced : phrase.isLoose = true) (depth : Nat) : phrase.Mirrors loose tight depth := by
  induction depth generalizing phrase with
  | zero => exact fun _ _ _ _ => trivial
  | succ depth ih =>
      cases phrase with
      | start | text _ => cases spaced
      | symbol mark => exact mirrors_symbol alike (List.contains_iff_mem.1 spaced)
      | ref rule =>
          obtain ⟨inside, lexed⟩ := Bool.and_eq_true_iff.1 spaced
          cases defined : definition rule with
          | fragment body => simp [defined] at lexed
          | token pattern => exact mirrors_token alike defined
          | phrase body =>
              have known := isLoose_definition rule
              rw [defined, beq_false_of_ne (bne_iff_ne.1 inside), Bool.false_or] at known
              exact .phrase alike defined (ih known)
      | seq first second =>
          obtain ⟨one, two⟩ := Bool.and_eq_true_iff.1 spaced
          exact .seq alike (ih one) (ih two)
      | join first second =>
          obtain ⟨both, again⟩ := Bool.and_eq_true_iff.1 spaced
          obtain ⟨one, two⟩ := Bool.and_eq_true_iff.1 both
          exact .join alike (ih one) (ih two) again
      | alt first second =>
          obtain ⟨one, two⟩ := Bool.and_eq_true_iff.1 spaced
          exact .alt alike (ih one) (ih two)
      | opt inner => exact .opt alike (ih spaced)
      | again inner => exact .again alike (@ih inner spaced) (@ih (.again inner) spaced)

end Phrase

section Matched

variable {depth : Nat} {phrase : Phrase} {here stop : Cursor} {before after : Frontier}
  {text cs' : List Char} {nodes : List Node}

theorem exists_gives_of_matched
    (found : matchPhrase depth phrase here before = .matched text nodes stop after)
    (spaced : phrase.isLoose = true) (faces : phrase.Faces Relaid Abreast here.rest cs') :
    ∃ outlines left, phrase.Gives cs' outlines left ∧ Relaid stop.rest left ∧
      Outline.bareAll outlines = Outline.bareAll (Node.outlineAll nodes) :=
  (Phrase.mirrors_of_isLoose alike_relaid spaced depth).of_eq faces found

/-- What is found at a place depends on the text there only. -/
theorem gives_of_matched
    (found : matchPhrase depth phrase here before = .matched text nodes stop after)
    (spaced : phrase.isLoose = true) : ∃ outlines, phrase.Gives here.rest outlines stop.rest := by
  have faces : phrase.Faces Eq Eq here.rest here.rest := alike_eq.faces rfl phrase
  obtain ⟨outlines, left, given, rfl, _⟩ :=
    (Phrase.mirrors_of_isLoose alike_eq spaced depth).of_eq faces found
  exact ⟨outlines, given⟩

theorem fails_of_failed (failed : matchPhrase depth phrase here before = .failed after)
    (spaced : phrase.isLoose = true) : phrase.Fails here.rest := by
  have faces : phrase.Faces Eq Eq here.rest here.rest := alike_eq.faces rfl phrase
  exact (Phrase.mirrors_of_isLoose alike_eq spaced depth).of_eq faces failed

end Matched

/-! ## Whole texts -/

variable {text text' : List Char}

/-- A text with other blanks and other case is matched as a whole if the text is. -/
theorem exists_parse_of_relaid (relaid : Relaid text text') {tree : Node}
    (found : parse .cqlFilter text = .ok [tree]) :
    ∃ tree', parse .cqlFilter text' = .ok [tree'] ∧ tree'.outline.bare = tree.outline.bare := by
  obtain ⟨stop, spans⟩ := exists_spans_of_parse found
  obtain ⟨_, _, _, _, whole, ⟨_, _, _, _, condition⟩, ⟨_, _, _, _, final⟩⟩ := spans.filter
  cases whole
  obtain ⟨outlines, left, given, relaid', same⟩ :=
    exists_gives_of_matched condition rfl (alike_relaid.faces relaid.abreast _)
  obtain ⟨outlines', left', given', _, same'⟩ :=
    exists_gives_of_matched final rfl (alike_relaid.faces relaid'.abreast _)
  have body := ((Phrase.givesAt_start text').seq given).seq given'
  have whole : (Phrase.ref .cqlFilter).GivesAt ⟨0, text'⟩ _ left' := body.phrase rfl
  obtain ⟨tree', found, outline⟩ := exists_parse_of_givesAt whole
  refine ⟨tree', found, ?_⟩
  rw [outline]
  exact congrArg (Outline.branch .cqlFilter) (Outline.bareAll_nodes_append same same')

/-- A lexeme is a bracket, or closes all that it opens. -/
theorem IsLexeme.passes {look : Look} {rest : List Char} (lexeme : IsLexeme look text rest) :
    text = ['('] ∨ text = [')'] ∨ Passes none text none := by
  cases look with
  | blank => cases lexeme
  | opening => exact .inl (Pattern.takes_of_scan _ lexeme)
  | closing => exact .inr (.inl (Pattern.takes_of_scan _ lexeme))
  | apostrophe => exact .inr (.inr (Pattern.Moves.characterLiteral lexeme))
  | quotation => exact .inr (.inr (Pattern.Moves.quotedIdentifier lexeme))
  | comma | comparison | numeric | letter =>
      exact .inr (.inr (Pattern.Moves.outside rfl lexeme))

theorem depthAfter_of_lowered (same : lowered text = lowered text') (depth : Nat) :
    depthAfter depth text = depthAfter depth text' := by
  have single {mark : Char} (plain : mark.isAlpha = false) : text = [mark] ↔ text' = [mark] := by
    cases text with
    | nil =>
        rw [List.map_eq_nil_iff.1 same.symm]
    | cons c cs =>
        obtain ⟨d, ds, rfl, letter, others⟩ := lowered_cons same
        rw [List.cons.injEq, List.cons.injEq, eq_mark_iff letter plain,
          ← List.length_eq_zero_iff, ← List.length_eq_zero_iff, length_of_lowered others]
  simp only [depthAfter, @single '(' rfl, @single ')' rfl]

/-- Both texts are rows of lexemes that nest alike. -/
theorem Relaid.exists_laid (relaid : Relaid text text') :
    ∃ tokens tokens', Laid tokens text ∧ Laid tokens' text' ∧
      (∀ token ∈ tokens, token = ['('] ∨ token = [')'] ∨ Passes none token none) ∧
      (∀ token ∈ tokens', token = ['('] ∨ token = [')'] ∨ Passes none token none) ∧
      ∀ depth, deepest depth tokens = deepest depth tokens' := by
  induction relaid with
  | nil => exact ⟨[], [], .nil, .nil, List.forall_mem_nil _, List.forall_mem_nil _, fun _ => rfl⟩
  | blanks blank blank' _ _ ih =>
      obtain ⟨tokens, tokens', laid, laid', kinds⟩ := ih
      exact ⟨tokens, tokens', (Laid.blanks blank).append laid, (Laid.blanks blank').append laid',
        kinds⟩
  | @lexeme look text text' rest rest' lexeme same more ih =>
      obtain ⟨tokens, tokens', laid, laid', kinds, kinds', deep⟩ := ih
      refine ⟨text :: tokens, text' :: tokens', .token text laid, .token text' laid',
        List.forall_mem_cons.2 ⟨lexeme.passes, kinds⟩,
        List.forall_mem_cons.2 ⟨(more.lexeme_second lexeme same).passes, kinds'⟩, fun depth => ?_⟩
      rw [deepest, deepest, depthAfter_of_lowered same, deep]

/-- Both texts are found to nest too deep or none of them is. -/
theorem firstOverdeep_of_relaid (relaid : Relaid text text') (limit : Nat) :
    Filter.firstOverdeep text limit = none ↔ Filter.firstOverdeep text' limit = none := by
  obtain ⟨tokens, tokens', laid, laid', kinds, kinds', deep⟩ := relaid.exists_laid
  exact (overdeepFrom_laid laid kinds (Nat.zero_le limit) 0).trans
    ((deep 0) ▸ (overdeepFrom_laid laid' kinds' (Nat.zero_le limit) 0).symm)

end Grammar

end Cql
