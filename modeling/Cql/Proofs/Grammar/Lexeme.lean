import Cql.Proofs.Grammar.LetterCase
import Cql.Proofs.Grammar.TokenCut

/-!
# Lexemes

A text falls into lexemes without regard to the grammar: its first character says what kind of
lexeme begins there, and the lexeme is as long as its kind allows. What a rule for tokens finds at a
place depends on the lexeme that stands there and on nothing behind it. The rule takes the lexeme or
nothing of it, but for one exception. Where an apostrophe stands doubled, a point in time may be
taken off the front, and then the rest is a lexeme too.
-/

namespace Cql.Grammar

/-- The lexemes that begin with a character of the given look. -/
def Look.lexeme : Look → Pattern
  | .blank => .never
  | .opening => .literal "("
  | .closing => .literal ")"
  | .comma => .literal ","
  | .comparison => .comparisonOperator
  | .numeric => .number
  | .apostrophe => .characterLiteral
  | .quotation => .quotedIdentifier
  | .letter => .word

def IsLexeme (look : Look) (text rest : List Char) : Prop :=
  look.lexeme.scan (text ++ rest) = some (text, rest)

namespace IsLexeme

variable {look : Look} {text text' rest rest' more : List Char}

theorem ne_nil (lexeme : IsLexeme look text rest) : text ≠ [] := by
  cases look with
  | blank => cases lexeme
  | _ => exact Pattern.ne_nil_of_scan lexeme rfl

theorem begins_lexeme (look : Look) : look.lexeme.beginsWith [look] = true := by
  cases look <;> rfl

/-- The look of a lexeme is that of its first character. -/
theorem look_eq {c : Char} (lexeme : IsLexeme look (c :: text) rest) : Grammar.look c = look :=
  List.mem_singleton.1
    (Pattern.look_of_takes (Pattern.takes_of_scan _ lexeme) (begins_lexeme look))

/-- A lexeme stays one when text behind it is cut off. -/
theorem cut (lexeme : IsLexeme look text (rest ++ more)) : IsLexeme look text rest := by
  have cuttable : look.lexeme.isCuttable = true := by cases look <;> rfl
  rw [IsLexeme, ← List.append_assoc] at lexeme
  exact Pattern.scan_cut cuttable lexeme

theorem short (lexeme : IsLexeme look text rest) : IsLexeme look text [] :=
  @cut look text [] rest lexeme

theorem alone (lexeme : IsLexeme look text rest) : look.lexeme.scan text = some (text, []) := by
  have short := lexeme.short
  rwa [IsLexeme, List.append_nil] at short

/-- A lexeme stays one when the case of letters changes. -/
theorem recase (lexeme : IsLexeme look text rest) (same : lowered text = lowered text')
    (same' : lowered rest = lowered rest') : IsLexeme look text' rest' := by
  have caseless : look.lexeme.isCaseless = true := by cases look <;> rfl
  exact Pattern.scan_recase caseless lexeme same same'

/-- A lexeme stays one when more text is added, if that begins with a blank. -/
theorem append (lexeme : IsLexeme look text rest) (ended : Ended more) :
    IsLexeme look text (rest ++ more) := by
  rw [IsLexeme, ← List.append_assoc]
  cases look with
  | apostrophe =>
      exact Pattern.scan_quoted (show "'".toList = ['\''] from rfl)
        (.many_quotedChar rfl (ended.head_ne (by decide))) lexeme
  | quotation =>
      have steady : (Pattern.many1 (Pattern.quotedChar "\"")).Steady more :=
        Pattern.Steady.seq (.quotedChar rfl (ended.head_ne (by decide)))
          (.many_quotedChar rfl (ended.head_ne (by decide)))
      exact Pattern.scan_quoted (show "\"".toList = ['"'] from rfl) steady lexeme
  | _ =>
      rw [Pattern.scan_append rfl ended]
      exact congrArg (Option.map _) lexeme

end IsLexeme

/-! ## Texts between apostrophes -/

namespace Pattern

variable {cs text rest body : List Char}

theorem scanRounds_limit {scan : List Char → Option (List Char × List Char)}
    (shrinks : ∀ {cs taken left}, scan cs = some (taken, left) → left.length < cs.length)
    {limit limit' : List Char} (enough : cs.length ≤ limit.length)
    (enough' : cs.length ≤ limit'.length) :
    scanRounds scan limit' cs = scanRounds scan limit cs := by
  have atEnd : scan [] = none := by
    cases found : scan [] with
    | none => rfl
    | some pair => exact absurd (shrinks found) (Nat.not_lt_zero _)
  have keeps (found : List Char × List Char) : extend [] found = found := by
    rw [extend, List.append_nil]
  have same : ∀ {cs}, cs ≠ [] → scan (cs ++ []) = (scan cs).map (extend []) := by
    intro cs _
    rw [List.append_nil, show extend [] = id from funext keeps, Option.map_id_fun, id]
  have extended := scanRounds_extend shrinks same enough (by simpa using enough') (.inr atEnd)
  rwa [List.append_nil, keeps] at extended

/-- A text between apostrophes is closed by the first apostrophe that is not doubled. -/
theorem scan_characterLiteral :
    characterLiteral.scan cs = some (text, rest) ↔ ∃ cs' inner, cs = '\'' :: cs' ∧
      scanRounds (quotedChar "'").scan cs' cs' = (inner, '\'' :: rest) ∧
      text = '\'' :: inner ++ ['\''] := by
  have mark {cs taken left : List Char} : (literal "'").scan cs = some (taken, left) ↔
      cs = '\'' :: left ∧ taken = ['\''] := by
    constructor
    · intro found
      obtain rfl : taken = ['\''] := takes_of_scan _ found
      exact ⟨eq_append_of_scan _ found, rfl⟩
    · rintro ⟨rfl, rfl⟩
      rfl
  change Pattern.scan (.seq (.seq (.literal "'") (.many (.quotedChar "'"))) (.literal "'")) cs
    = _ ↔ _
  constructor
  · intro found
    rw [scan] at found
    split at found
    · cases found
    · next front mid start =>
        obtain ⟨⟨last, left⟩, closed, pair⟩ := Option.map_eq_some_iff.1 found
        cases pair
        obtain ⟨rfl, rfl⟩ := mark.1 closed
        rw [scan] at start
        split at start
        · cases start
        · next _ within opened =>
            obtain ⟨rfl, rfl⟩ := mark.1 opened
            obtain ⟨⟨inner, after⟩, rounds, pair⟩ := Option.map_eq_some_iff.1 start
            cases pair
            exact ⟨_, inner, rfl, Option.some.inj rounds, rfl⟩
  · rintro ⟨cs', inner, rfl, rounds, rfl⟩
    have opened : (literal "'").scan ('\'' :: cs') = some (['\''], cs') := mark.2 ⟨rfl, rfl⟩
    have closed : (literal "'").scan ('\'' :: rest) = some (['\''], rest) := mark.2 ⟨rfl, rfl⟩
    have start : Pattern.scan (.seq (.literal "'") (.many (.quotedChar "'"))) ('\'' :: cs')
        = some ('\'' :: inner, '\'' :: rest) := by
      rw [scan, opened]
      simp only [scan, rounds, Option.map_some, List.singleton_append]
    rw [scan, start]
    simp only [closed, Option.map_some]

/-- Up to the first apostrophe, what is between apostrophes is as it stands. A doubled one divides
two texts between apostrophes. -/
theorem exists_segment_of_scanRounds {limit inner : List Char} (enough : cs.length ≤ limit.length)
    (rounds : scanRounds (quotedChar "'").scan limit cs = (inner, '\'' :: rest)) :
    ∃ body more, '\'' ∉ body ∧ inner ++ ['\''] = body ++ '\'' :: more ∧
      (more = [] ∨ IsLexeme .apostrophe more rest) := by
  have visible : (quotedChar "'").mayBeEmpty = false := mayBeEmpty_quotedChar rfl
  induction limit generalizing cs inner with
  | nil =>
      cases rounds
      exact ⟨[], [], List.not_mem_nil, rfl, .inl rfl⟩
  | cons _ limit ih =>
      cases cs with
      | nil =>
          rw [scanRounds, scan_nil visible] at rounds
          cases rounds
      | cons c cs =>
          have enough : cs.length ≤ limit.length := Nat.le_of_succ_le_succ enough
          rw [scanRounds, scan_quotedChar (show "'".toList = ['\''] from rfl)] at rounds
          by_cases mark : c = '\''
          · by_cases twin : cs.head? = some '\''
            · obtain ⟨cs, rfl⟩ := List.head?_eq_some_iff.1 twin
              simp only [if_pos mark, if_pos twin, List.tail_cons] at rounds
              cases later : scanRounds (quotedChar "'").scan limit cs with
              | mk more last =>
                  rw [later] at rounds
                  obtain ⟨rfl, rfl⟩ := Prod.mk.inj rounds
                  have short : cs.length ≤ limit.length := Nat.le_of_succ_le enough
                  rw [scanRounds_limit (fun found => shrinks_of_scan visible found)
                    (Nat.le_refl _) short] at later
                  refine ⟨[], '\'' :: more ++ ['\''], List.not_mem_nil, rfl, .inr ?_⟩
                  refine scan_characterLiteral.2 ⟨cs, more, ?_, later, rfl⟩
                  have whole :=
                    scanRounds_append (fun _ _ _ => (quotedChar "'").eq_append_of_scan) cs cs
                  rw [later] at whole
                  simp [← whole]
            · simp only [if_pos mark, if_neg twin] at rounds
              cases rounds
              exact ⟨[], [], List.not_mem_nil, rfl, .inl rfl⟩
          · simp only [if_neg mark] at rounds
            cases later : scanRounds (quotedChar "'").scan limit cs with
            | mk more last =>
                rw [later] at rounds
                obtain ⟨rfl, rfl⟩ := Prod.mk.inj rounds
                obtain ⟨body, behind, free, parts, last⟩ := ih enough later
                refine ⟨c :: body, behind, ?_, congrArg (c :: ·) parts, last⟩
                exact fun among => (List.mem_cons.1 among).elim (Ne.symm mark) free

/-- A text without an apostrophe between two of them stops at the second, unless that is doubled. -/
theorem scan_segment (free : '\'' ∉ body) (single : rest.head? ≠ some '\'') :
    characterLiteral.scan ('\'' :: body ++ ['\''] ++ rest)
      = some ('\'' :: body ++ ['\''], rest) := by
  have each (c : Char) (among : c ∈ body) (left : List Char) :
      (quotedChar "'").scan (c :: left) = some ([c], left) := by
    rw [scan_quotedChar (show "'".toList = ['\''] from rfl), if_neg]
    rintro rfl
    exact free among
  have stops : (quotedChar "'").scan ('\'' :: rest) = none := by
    rw [scan_quotedChar (show "'".toList = ['\''] from rfl), if_pos rfl, if_neg single]
  exact scan_characterLiteral.2
    ⟨body ++ '\'' :: rest, body, by simp, scanRounds_of_forall each stops (by simp), rfl⟩

end Pattern

/-- The front of a text between apostrophes up to the second apostrophe. What follows is a text
between apostrophes again. -/
theorem IsLexeme.exists_segment {text rest : List Char} (lexeme : IsLexeme .apostrophe text rest) :
    ∃ body more, '\'' ∉ body ∧ text = '\'' :: body ++ ['\''] ++ more ∧
      (more = [] ∨ IsLexeme .apostrophe more rest) := by
  obtain ⟨cs, inner, _, rounds, rfl⟩ := Pattern.scan_characterLiteral.1 lexeme
  obtain ⟨body, more, free, parts, last⟩ :=
    Pattern.exists_segment_of_scanRounds (Nat.le_refl _) rounds
  refine ⟨body, more, free, ?_, last⟩
  simp [parts]

/-! ## Points in time -/

/-- The tokens that are points in time between apostrophes. -/
def timedRules : List Rule :=
  [.dateString, .timestampString, .dotDotString]

namespace Pattern

def isOpening : Pattern → Bool
  | .literal word => word.toList.head? == some '\'' && !word.toList.tail.contains '\''
  | .seq first second => first.isOpening && second.shuns ['\''] && second.avoids ['\'']
  | .caseless _ | .one _ | .alt _ _ | .opt _ | .many _ | .not _ => false

/-- Such a pattern sees nothing from the second apostrophe on. -/
theorem scan_of_isOpening {pattern : Pattern} (opening : pattern.isOpening = true)
    (body rest : List Char) :
    pattern.scan ('\'' :: body ++ '\'' :: rest)
      = (pattern.scan ('\'' :: body)).map (extend ('\'' :: rest)) := by
  have halts : ∀ c ∈ ('\'' :: rest).head?, c ∈ ['\''] := fun c next => by
    rw [List.head?_cons, Option.mem_some_iff] at next
    exact List.mem_singleton.2 next.symm
  induction pattern with
  | literal word =>
      obtain ⟨first, others⟩ := Bool.and_eq_true_iff.1 opening
      obtain ⟨letters, whole⟩ := List.head?_eq_some_iff.1 (beq_iff_eq.1 first)
      rw [whole, List.tail_cons, Bool.not_eq_true'] at others
      rw [scan, scan, whole, List.cons_append, takeWord, takeWord, if_pos BEq.rfl, if_pos BEq.rfl,
        takeWord_append, Option.map_map, Option.map_map]
      · rfl
      · intro c next w among
        refine beq_false_of_ne ?_
        rintro rfl
        rw [List.mem_singleton.1 (halts w next)] at among
        rw [List.contains_iff_mem.2 among] at others
        cases others
  | seq first second ihFirst _ =>
      simp only [isOpening, Bool.and_eq_true] at opening
      obtain ⟨⟨one, two⟩, _⟩ := opening
      rw [scan, scan, ihFirst one]
      cases first.scan ('\'' :: body) with
      | none => rfl
      | some pair => simp [extend, scan_append two halts, Option.map_map, Function.comp_def]
  | _ => cases opening

/-- What such a pattern takes has no apostrophe but the first. -/
theorem exists_body_of_isOpening {pattern : Pattern} (opening : pattern.isOpening = true)
    (taken : pattern.Takes text) : ∃ body, text = '\'' :: body ∧ '\'' ∉ body := by
  induction pattern generalizing text with
  | literal word =>
      obtain ⟨first, others⟩ := Bool.and_eq_true_iff.1 opening
      obtain ⟨letters, whole⟩ := List.head?_eq_some_iff.1 (beq_iff_eq.1 first)
      refine ⟨letters, (show text = word.toList from taken).trans whole, fun among => ?_⟩
      rw [whole, List.tail_cons, List.contains_iff_mem.2 among] at others
      cases others
  | seq first second ihFirst _ =>
      simp only [isOpening, Bool.and_eq_true] at opening
      obtain ⟨xs, ys, one, two, rfl⟩ := taken
      obtain ⟨body, rfl, free⟩ := ihFirst opening.1.1 one
      refine ⟨body ++ ys, rfl, fun among => ?_⟩
      rcases List.mem_append.1 among with front | back
      · exact free front
      · exact not_mem_of_takes two opening.2 _ back (List.mem_singleton_self _)
  | _ => cases opening

theorem scan_literal_append (one two : String) (cs : List Char) :
    (literal (one ++ two)).scan cs = (literal one ++ literal two).scan cs := by
  change takeWord _ (one ++ two).toList cs = Pattern.scan (.seq (.literal one) (.literal two)) cs
  rw [String.toList_append, scan, scan]
  generalize one.toList = letters
  induction letters generalizing cs with
  | nil => cases found : takeWord (· == ·) two.toList cs <;> simp [takeWord, scan, found]
  | cons w letters ih =>
      cases cs with
      | nil => rfl
      | cons c cs =>
          simp only [List.cons_append, takeWord, ih]
          split
          · cases takeWord (· == ·) letters cs <;> simp [Option.map_map, Function.comp_def]
          · rfl

end Pattern

/-- A point in time is closed by an apostrophe behind what has no other but its first. -/
theorem exists_opening {rule : Rule} (timed : rule ∈ timedRules) {pattern : Pattern}
    (defined : definition rule = .token pattern) :
    ∃ front : Pattern, front.isOpening = true ∧ front.mayBeEmpty = false ∧
      ∀ cs, pattern.scan cs = (front ++ Pattern.literal "'").scan cs := by
  simp only [timedRules, List.mem_cons, List.not_mem_nil, or_false] at timed
  rcases timed with rfl | rfl | rfl <;> cases defined
  · exact ⟨_, rfl, rfl, fun _ => rfl⟩
  · exact ⟨_, rfl, rfl, fun _ => rfl⟩
  · exact ⟨.literal "'..", rfl, rfl,
      Pattern.scan_literal_append "'.." "'"⟩

/-- Whether a point in time stands at an apostrophe is known by the next apostrophe, and it ends
there. -/
theorem scan_of_timed {rule : Rule} (timed : rule ∈ timedRules) {pattern : Pattern}
    (defined : definition rule = .token pattern) {body : List Char} (free : '\'' ∉ body) :
    (∀ rest, pattern.scan ('\'' :: body ++ '\'' :: rest) = none) ∨
      ∀ rest, pattern.scan ('\'' :: body ++ '\'' :: rest)
        = some ('\'' :: body ++ ['\''], rest) := by
  obtain ⟨front, opening, visible, same⟩ := exists_opening timed defined
  have closing (rest : List Char) : pattern.scan ('\'' :: body ++ '\'' :: rest)
      = Pattern.scan (.seq front (.literal "'")) ('\'' :: body ++ '\'' :: rest) := same _
  simp only [closing, Pattern.scan, Pattern.scan_of_isOpening opening]
  cases start : front.scan ('\'' :: body) with
  | none => exact .inl fun _ => rfl
  | some pair =>
      obtain ⟨taken, left⟩ := pair
      have whole := front.eq_append_of_scan start
      cases left with
      | nil =>
          rw [List.append_nil] at whole
          refine .inr fun rest => ?_
          simp [Pattern.extend, takeWord, whole]
      | cons c left =>
          obtain ⟨_, taken, rfl⟩ :=
            List.exists_cons_of_ne_nil (Pattern.ne_nil_of_scan start visible)
          have inside : c ∈ body := by
            rw [(List.cons.inj whole).2]
            exact List.mem_append_right _ List.mem_cons_self
          have other : ('\'' == c) = false := by
            refine beq_false_of_ne ?_
            rintro rfl
            exact free inside
          refine .inl fun rest => ?_
          simp [Pattern.extend, takeWord, other]

/-! ## Tokens and lexemes -/

variable {rule : Rule} {pattern : Pattern} {look : Look} {text rest : List Char}

theorem pattern_of_look (defined : definition rule = .token pattern) (among : look ∈ looksOf rule) :
    pattern = look.lexeme ∨ rule ∈ reservedRules ∨ rule = .identifier ∨ rule ∈ timedRules := by
  cases rule with
  | comparisonOperator | characterLiteral | numericLiteral | xCoord | yCoord | zCoord | westBoundLon
  | eastBoundLon | northBoundLat | southBoundLat | minElev | maxElev =>
      cases defined
      rw [List.mem_singleton.1 among]
      exact .inl rfl
  | booleanLiteral | spatialFunction | temporalFunction | arrayFunction | keyword =>
      exact .inr (.inl (mem_reservedRules rfl))
  | identifier => exact .inr (.inr (.inl rfl))
  | dateString | timestampString | dotDotString => exact .inr (.inr (.inr (by decide)))
  | _ => cases among

theorem scan_identifier_of_lexeme (among : look ∈ looksOf .identifier)
    (lexeme : IsLexeme look text rest) :
    let pattern := Pattern.quotedIdentifier <|> Pattern.bareIdentifier
    (pattern.scan text = none ∧ pattern.scan (text ++ rest) = none) ∨
      ∃ taken left, pattern.scan text = some (taken, left) ∧
        pattern.scan (text ++ rest) = some (taken, left ++ rest) ∧
        (left = [] ∨ IsLexeme look left rest) := by
  change (Pattern.scan (.alt .quotedIdentifier .bareIdentifier) text = none ∧
    Pattern.scan (.alt .quotedIdentifier .bareIdentifier) (text ++ rest) = none) ∨ _
  simp only [looksOf, List.mem_cons, List.not_mem_nil, or_false] at among
  rcases among with rfl | rfl
  · have alone : Pattern.quotedIdentifier.scan text = some (text, []) := lexeme.alone
    have quoted : Pattern.quotedIdentifier.scan (text ++ rest) = some (text, rest) := lexeme
    refine .inr ⟨text, [], ?_, ?_, .inl rfl⟩
    · change Pattern.scan (.alt _ _) _ = _
      rw [Pattern.scan, alone]
    · change Pattern.scan (.alt _ _) _ = _
      rw [Pattern.scan, quoted, List.nil_append]
  · have bare (left : List Char) : Pattern.scan (.alt .quotedIdentifier .bareIdentifier)
        (text ++ left) = Pattern.bareIdentifier.scan (text ++ left) := by
      obtain ⟨c, cs, rfl⟩ := List.exists_cons_of_ne_nil lexeme.ne_nil
      have letter : Grammar.look c ∈ [Look.letter] := List.mem_singleton.2 lexeme.look_eq
      rw [Pattern.scan, List.cons_append, scan_quotedIdentifier_of_look letter]
    have alone := (bare []).trans (scan_bareIdentifier_of_word lexeme.short)
    have whole := (bare rest).trans (scan_bareIdentifier_of_word lexeme)
    rw [List.append_nil] at alone
    by_cases reserved : (reservedRules.any fun rule => isWordOf rule text) = true
    · rw [if_pos reserved] at alone whole
      exact .inl ⟨alone, whole⟩
    · rw [if_neg reserved] at alone whole
      exact .inr ⟨text, [], alone, whole, .inl rfl⟩

/-- What a rule for tokens finds at a lexeme depends on the lexeme alone. What it leaves of the
lexeme is a lexeme again. -/
theorem scan_of_lexeme (defined : definition rule = .token pattern) (proper : rule ≠ .endOfInput)
    (lexeme : IsLexeme look text rest) :
    (pattern.scan text = none ∧ pattern.scan (text ++ rest) = none) ∨
      ∃ taken left, pattern.scan text = .some (taken, left) ∧
        pattern.scan (text ++ rest) = .some (taken, left ++ rest) ∧
        (left = [] ∨ IsLexeme look left rest) := by
  by_cases among : look ∈ looksOf rule
  · rcases pattern_of_look defined among with rfl | reserved | rfl | timed
    · exact .inr ⟨text, [], lexeme.alone, lexeme, .inl rfl⟩
    · rw [looksOf_of_reserved reserved] at among
      obtain rfl := List.mem_singleton.1 among
      have alone := scan_of_word reserved defined lexeme.short
      rw [List.append_nil] at alone
      rw [alone, scan_of_word reserved defined lexeme]
      split
      · exact .inr ⟨text, [], rfl, rfl, .inl rfl⟩
      · exact .inl ⟨rfl, rfl⟩
    · cases defined
      exact scan_identifier_of_lexeme among lexeme
    · have apostrophe : look = .apostrophe := by
        simp only [timedRules, List.mem_cons, List.not_mem_nil, or_false] at timed
        rcases timed with rfl | rfl | rfl <;> exact List.mem_singleton.1 among
      subst apostrophe
      obtain ⟨body, more, free, rfl, last⟩ := lexeme.exists_segment
      have parts (left : List Char) : '\'' :: body ++ ['\''] ++ more ++ left
          = '\'' :: body ++ '\'' :: (more ++ left) := by simp
      have whole : '\'' :: body ++ ['\''] ++ more = '\'' :: body ++ '\'' :: more := by simp
      rw [parts, whole]
      rcases scan_of_timed timed defined free with fails | takes
      · exact .inl ⟨fails _, fails _⟩
      · exact .inr ⟨_, more, takes _, takes _, last⟩
  · obtain ⟨c, cs, rfl⟩ := List.exists_cons_of_ne_nil lexeme.ne_nil
    obtain ⟨begins, visible⟩ := begins_of_token defined proper
    rw [← lexeme.look_eq] at among
    exact .inl ⟨Pattern.scan_of_look begins visible among,
      Pattern.scan_of_look begins visible among⟩

/-- What a rule for tokens takes off the front of a text is a lexeme. A point in time is one unless
its closing apostrophe is doubled. -/
theorem exists_lexeme (defined : definition rule = .token pattern) (proper : rule ≠ .endOfInput)
    (found : pattern.scan (text ++ rest) = .some (text, rest))
    (single : rule ∈ timedRules → rest.head? ≠ .some '\'') :
    ∃ look ∈ looksOf rule, IsLexeme look text rest := by
  obtain ⟨begins, visible⟩ := begins_of_token defined proper
  obtain ⟨c, cs, rfl⟩ := List.exists_cons_of_ne_nil (Pattern.ne_nil_of_scan found visible)
  have among := Pattern.look_of_takes (Pattern.takes_of_scan _ found) begins
  rcases pattern_of_look defined among with rfl | reserved | rfl | timed
  · exact ⟨_, among, found⟩
  · refine ⟨.letter, ?_, word_of_reserved reserved defined (List.cons_ne_nil c cs) found⟩
    rw [looksOf_of_reserved reserved]
    exact List.mem_singleton_self _
  · cases defined
    change Pattern.scan (.alt .quotedIdentifier .bareIdentifier) _ = _ at found
    rw [Pattern.scan] at found
    split at found
    · exact ⟨.letter, by decide, word_of_bareIdentifier found⟩
    · next quoted =>
        cases found
        exact ⟨.quotation, by decide, quoted⟩
  · obtain ⟨front, opening, _, same⟩ := exists_opening timed defined
    rw [same] at found
    obtain ⟨xs, ys, takes, closes, whole⟩ : Pattern.Takes (.seq front (.literal "'")) (c :: cs) :=
      Pattern.takes_of_scan _ found
    obtain ⟨body, rfl, free⟩ := Pattern.exists_body_of_isOpening opening takes
    rw [show ys = ['\''] from closes] at whole
    refine ⟨.apostrophe, ?_, ?_⟩
    · simp only [timedRules, List.mem_cons, List.not_mem_nil, or_false] at timed
      rcases timed with rfl | rfl | rfl <;> exact List.mem_singleton_self _
    · rw [whole]
      exact Pattern.scan_segment free (single timed)

end Cql.Grammar
