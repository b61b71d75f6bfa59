import Cql.Proofs.Grammar.Depth

/-!
# Tokens with blanks between them

A token is matched in the same way whether the text ends after it or a blank follows: no pattern
takes a blank, except between quotation marks, and there the closing mark is found first. Which
token stands at a place can mostly be told from its first character. Reserved words are told from
each other and from identifiers by the whole word.
-/

namespace Cql.Grammar

/-- The characters that may stand between tokens. -/
def blanks : List Char :=
  [' ', '\t', '\r', '\n']

theorem isBlank_iff_mem {c : Char} : isBlank c = true ↔ c ∈ blanks := by
  simp [isBlank, blanks, or_assoc]

/-- A blank comes next, or nothing. -/
def Ended (left : List Char) : Prop :=
  ∀ c ∈ left.head?, c ∈ blanks

theorem Ended.head_ne {left : List Char} (ended : Ended left) {mark : Char}
    (visible : mark ∉ blanks) : left.head? ≠ some mark :=
  fun here => visible (ended mark here)

/-! ## Patterns that shun characters -/

namespace Pattern

/-- Whether the pattern fails at the given characters wherever it looks at one. What it repeats
takes at least one character in each round. -/
def shuns (stops : List Char) : Pattern → Bool
  | .literal word => word.toList.all fun c => !stops.contains c
  | .caseless word => stops.all fun c => !(word.toList.map Char.toLower).contains c.toLower
  | .one cls => stops.all fun c => !cls.contains c
  | .seq first second | .alt first second => first.shuns stops && second.shuns stops
  | .opt inner | .not inner => inner.shuns stops
  | .many inner => inner.shuns stops && !inner.mayBeEmpty

def extend (left : List Char) (found : List Char × List Char) : List Char × List Char :=
  (found.1, found.2 ++ left)

variable {cs left : List Char}

theorem takeWord_append {same : Char → Char → Bool} {word : List Char}
    (other : ∀ c ∈ left.head?, ∀ w ∈ word, same w c = false) :
    takeWord same word (cs ++ left) = (takeWord same word cs).map (extend left) := by
  induction word generalizing cs with
  | nil => rfl
  | cons w ws ih =>
      cases cs with
      | nil =>
          cases left with
          | nil => rfl
          | cons c left => simp [takeWord, other c rfl w List.mem_cons_self]
      | cons c cs =>
          have others : ∀ c ∈ left.head?, ∀ w ∈ ws, same w c = false :=
            fun c next w among => other c next w (List.mem_cons_of_mem _ among)
          simp only [List.cons_append, takeWord, ih others]
          split
          · simp [Option.map_map, Function.comp_def, extend]
          · rfl

/-- Rounds of scanning go on in the same way when a text becomes longer, if they stop inside it or
fail at what was added. -/
theorem scanRounds_extend {scan : List Char → Option (List Char × List Char)}
    (shrinks : ∀ {cs taken left}, scan cs = some (taken, left) → left.length < cs.length)
    (same : ∀ {cs}, cs ≠ [] → scan (cs ++ left) = (scan cs).map (extend left))
    {limit limit' : List Char} (enough : cs.length ≤ limit.length)
    (enough' : cs.length + left.length ≤ limit'.length)
    (stops : (scanRounds scan limit cs).2 ≠ [] ∨ scan left = none) :
    scanRounds scan limit' (cs ++ left) = extend left (scanRounds scan limit cs) := by
  induction limit generalizing cs limit' with
  | nil =>
      obtain rfl := List.eq_nil_of_length_eq_zero (Nat.le_zero.1 enough)
      have fails : scan left = none := stops.resolve_left fun visible => visible rfl
      cases limit' with
      | nil => rfl
      | cons _ limit' => simp [scanRounds, fails, extend]
  | cons _ limit ih =>
      cases cs with
      | nil =>
          have atEnd : scan [] = none := by
            cases found : scan [] with
            | none => rfl
            | some pair => exact absurd (shrinks found) (Nat.not_lt_zero _)
          have fails : scan left = none := by
            refine stops.resolve_left fun visible => visible ?_
            rw [scanRounds, atEnd]
          rw [scanRounds, atEnd]
          cases limit' with
          | nil => rfl
          | cons _ limit' => simp [scanRounds, fails, extend]
      | cons c cs =>
          cases limit' with
          | nil => simp at enough'
          | cons _ limit' =>
              rw [scanRounds] at stops ⊢
              rw [same (List.cons_ne_nil c cs), scanRounds]
              cases found : scan (c :: cs) with
              | none => rfl
              | some pair =>
                  have shorter : pair.2.length ≤ cs.length := Nat.le_of_lt_succ (shrinks found)
                  rw [found] at stops
                  have rest := ih (Nat.le_trans shorter (Nat.le_of_succ_le_succ enough))
                    (Nat.le_trans (Nat.add_le_add_right shorter _)
                      (by simpa [Nat.add_right_comm] using enough')) stops
                  simp only [Option.map_some, extend] at rest ⊢
                  rw [rest]

theorem shrinks_of_scan {pattern : Pattern} (visible : pattern.mayBeEmpty = false)
    {taken rest : List Char} (found : pattern.scan cs = some (taken, rest)) :
    rest.length < cs.length := by
  have positive := List.length_pos_iff.2 (ne_nil_of_scan found visible)
  rw [pattern.eq_append_of_scan found, List.length_append]
  omega

theorem scan_nil {pattern : Pattern} (visible : pattern.mayBeEmpty = false) :
    pattern.scan [] = none := by
  cases found : pattern.scan [] with
  | none => rfl
  | some pair => exact absurd (shrinks_of_scan visible found) (Nat.not_lt_zero _)

/-- A pattern is matched as if the text ended before a character that the pattern shuns. -/
theorem scan_append {pattern : Pattern} {stops : List Char} (shuns : pattern.shuns stops = true)
    (halts : ∀ c ∈ left.head?, c ∈ stops) :
    pattern.scan (cs ++ left) = (pattern.scan cs).map (extend left) := by
  induction pattern generalizing cs with
  | literal word =>
      refine takeWord_append fun c next w among => beq_false_of_ne ?_
      rintro rfl
      simpa [halts w next] using List.all_eq_true.1 shuns w among
  | caseless word =>
      refine takeWord_append fun c next w among => beq_false_of_ne fun same => ?_
      have lower : c.toLower ∈ word.toList.map Char.toLower :=
        List.mem_map.2 ⟨w, among, same⟩
      simpa [lower] using List.all_eq_true.1 shuns c (halts c next)
  | one cls =>
      cases cs with
      | nil =>
          cases left with
          | nil => rfl
          | cons c left =>
              have other := List.all_eq_true.1 shuns c (halts c rfl)
              rw [Bool.not_eq_true'] at other
              simp [scan, other]
      | cons c cs =>
          simp only [List.cons_append, scan]
          split <;> rfl
  | seq first second ihFirst ihSecond =>
      obtain ⟨one, two⟩ := Bool.and_eq_true_iff.1 shuns
      simp only [scan, ihFirst one]
      cases first.scan cs with
      | none => rfl
      | some pair => simp [extend, ihSecond two, Option.map_map, Function.comp_def]
  | alt first second ihFirst ihSecond =>
      obtain ⟨one, two⟩ := Bool.and_eq_true_iff.1 shuns
      simp only [scan, ihFirst one]
      cases first.scan cs with
      | none => exact ihSecond two
      | some pair => rfl
  | opt inner ih =>
      simp only [scan, ih shuns]
      cases inner.scan cs <;> rfl
  | many inner ih =>
      obtain ⟨one, visible⟩ := Bool.and_eq_true_iff.1 shuns
      rw [Bool.not_eq_true'] at visible
      have fails : inner.scan left = none := by
        have here := @ih [] one
        rwa [scan_nil visible] at here
      simp only [scan, Option.map_some, Option.some.injEq]
      exact scanRounds_extend (fun found => shrinks_of_scan visible found)
        (fun _ => ih one) (Nat.le_refl _) (by simp) (.inr fails)
  | not inner ih =>
      simp only [scan, ih shuns]
      cases inner.scan cs <;> rfl

/-! ## Quoted texts -/

/-- A match of the pattern that leaves some text over is not changed by what is added to it. -/
def Steady (left : List Char) (pattern : Pattern) : Prop :=
  ∀ ⦃cs taken rest : List Char⦄, rest ≠ [] → pattern.scan cs = some (taken, rest) →
    pattern.scan (cs ++ left) = some (taken, rest ++ left)

theorem takeWord_steady {same : Char → Char → Bool} {word taken rest : List Char}
    (found : takeWord same word cs = some (taken, rest)) :
    takeWord same word (cs ++ left) = some (taken, rest ++ left) := by
  induction word generalizing cs taken with
  | nil =>
      cases found
      rfl
  | cons w ws ih =>
      cases cs with
      | nil => cases found
      | cons c cs =>
          simp only [List.cons_append, takeWord] at found ⊢
          split at found
          · next agrees =>
              obtain ⟨pair, inner, whole⟩ := Option.map_eq_some_iff.1 found
              cases whole
              rw [if_pos agrees, ih inner]
              rfl
          · cases found

theorem Steady.literal (word : String) (left : List Char) : (Pattern.literal word).Steady left :=
  fun _ _ _ _ found => takeWord_steady found

theorem Steady.seq {first second : Pattern} (one : first.Steady left) (two : second.Steady left) :
    (Pattern.seq first second).Steady left := by
  intro cs taken rest nonempty found
  simp only [scan] at found ⊢
  split at found
  · cases found
  · next front mid start =>
      obtain ⟨pair, finish, same⟩ := Option.map_eq_some_iff.1 found
      cases same
      have more : mid ≠ [] := by
        rw [second.eq_append_of_scan finish]
        exact List.append_ne_nil_of_right_ne_nil _ nonempty
      rw [one more start]
      simp [two nonempty finish]

theorem mayBeEmpty_quotedChar {mark : Char} {word : String} (single : word.toList = [mark]) :
    (quotedChar word).mayBeEmpty = false := by
  change ((word ++ word).toList.isEmpty || _) = false
  rw [String.toList_append, single]
  rfl

/-- One character of a quoted text. The mark counts if it stands twice. -/
theorem scan_quotedChar {mark : Char} {word : String} (single : word.toList = [mark]) (c : Char)
    (cs : List Char) :
    (quotedChar word).scan (c :: cs) =
      if c = mark then if cs.head? = some mark then some ([mark, mark], cs.tail) else none
      else some ([c], cs) := by
  have twice : (word ++ word).toList = [mark, mark] := by
    rw [String.toList_append, single]
    rfl
  change Pattern.scan (.alt (.literal (word ++ word)) (.seq (.not (.literal word)) (.one .any)))
    (c :: cs) = _
  simp only [scan, twice, single]
  by_cases same : c = mark
  · subst same
    cases cs with
    | nil => simp [takeWord]
    | cons d rest =>
        by_cases twin : d = c
        · simp [takeWord, twin]
        · simp [takeWord, twin, Ne.symm twin]
  · simp [takeWord, scan, same, Ne.symm same, CharClass.contains]

/-- A character of a quoted text is read in the same way when more follows. -/
theorem scan_quotedChar_append {mark : Char} {word : String} (single : word.toList = [mark])
    (other : left.head? ≠ some mark) (nonempty : cs ≠ []) :
    (quotedChar word).scan (cs ++ left) = ((quotedChar word).scan cs).map (extend left) := by
  obtain ⟨c, cs, rfl⟩ := List.exists_cons_of_ne_nil nonempty
  rw [List.cons_append, scan_quotedChar single, scan_quotedChar single]
  by_cases same : c = mark
  · cases cs with
    | nil => simp [same, other]
    | cons d rest => by_cases twin : d = mark <;> simp [same, twin, extend]
  · simp [same, extend]

theorem Steady.quotedChar {mark : Char} {word : String} (single : word.toList = [mark])
    (other : left.head? ≠ some mark) : (Pattern.quotedChar word).Steady left := by
  intro cs taken rest _ found
  have nonempty : cs ≠ [] := by
    rintro rfl
    rw [scan_nil (mayBeEmpty_quotedChar single)] at found
    cases found
  rw [scan_quotedChar_append single other nonempty, found]
  rfl

theorem Steady.many_quotedChar {mark : Char} {word : String} (single : word.toList = [mark])
    (other : left.head? ≠ some mark) : (Pattern.many (Pattern.quotedChar word)).Steady left := by
  intro cs taken rest nonempty found
  simp only [scan, Option.some.injEq] at found ⊢
  have stops : (scanRounds (Pattern.quotedChar word).scan cs cs).2 ≠ [] := by
    rw [found]
    exact nonempty
  rw [scanRounds_extend (fun found => shrinks_of_scan (mayBeEmpty_quotedChar single) found)
    (fun nonempty => scan_quotedChar_append single other nonempty) (Nat.le_refl _)
    (by simp) (.inl stops), found]
  rfl

/-- A text between quotation marks ends with its closing mark. -/
theorem scan_quoted {mark : Char} {word : String} (single : word.toList = [mark])
    {inner : Pattern} (steady : inner.Steady left) {taken rest : List Char}
    (found : (Pattern.literal word ++ inner ++ Pattern.literal word).scan cs = some (taken, rest)) :
    (Pattern.literal word ++ inner ++ Pattern.literal word).scan (cs ++ left)
      = some (taken, rest ++ left) := by
  have front : (Pattern.literal word ++ inner).Steady left := (Steady.literal word left).seq steady
  change Pattern.scan (.seq (Pattern.literal word ++ inner) (.literal word)) _ = _
  change Pattern.scan (.seq (Pattern.literal word ++ inner) (.literal word)) _ = _ at found
  simp only [scan] at found ⊢
  split at found
  · cases found
  · next opened mid start =>
      obtain ⟨pair, closed, same⟩ := Option.map_eq_some_iff.1 found
      cases same
      have more : mid ≠ [] := by
        rintro rfl
        rw [single] at closed
        cases closed
      rw [front more start]
      simp only [takeWord_steady closed, Option.map_some]

end Pattern

/-! ## First characters -/

/-- What a first character says about a token. -/
inductive Look where
  | blank | opening | closing | comma | comparison | numeric | apostrophe | quotation | letter
  deriving DecidableEq, Repr

def look (c : Char) : Look :=
  if isBlank c then .blank
  else if c = '(' then .opening
  else if c = ')' then .closing
  else if c = ',' then .comma
  else if c ∈ ['<', '=', '>'] then .comparison
  else if c.isDigit ∨ c ∈ ['+', '-', '.'] then .numeric
  else if c = '\'' then .apostrophe
  else if c = '"' then .quotation
  else .letter

theorem isUpper_iff {c : Char} : c.isUpper = true ↔ 65 ≤ c.toNat ∧ c.toNat ≤ 90 :=
  decide_eq_true_iff

theorem isLower_iff {c : Char} : c.isLower = true ↔ 97 ≤ c.toNat ∧ c.toNat ≤ 122 :=
  Bool.and_eq_true_iff.trans (and_congr decide_eq_true_iff decide_eq_true_iff)

theorem isAlpha_iff {c : Char} : c.isAlpha = true ↔
    (65 ≤ c.toNat ∧ c.toNat ≤ 90) ∨ (97 ≤ c.toNat ∧ c.toNat ≤ 122) :=
  Bool.or_eq_true_iff.trans (or_congr isUpper_iff isLower_iff)

theorem look_of_isDigit {c : Char} (digit : c.isDigit = true) : look c = .numeric := by
  have other {d : Char} (plain : d.isDigit = false) : c ≠ d := by
    rintro rfl
    rw [plain] at digit
    cases digit
  have visible : isBlank c = false := by
    simp [isBlank, @other ' ' rfl, @other '\t' rfl, @other '\r' rfl, @other '\n' rfl]
  simp [look, visible, @other '(' rfl, @other ')' rfl, @other ',' rfl, @other '<' rfl,
    @other '=' rfl, @other '>' rfl, digit]

/-- A character that may begin an identifier looks like a letter. -/
theorem look_of_isIdentifierStart {c : Char} (start : Text.isIdentifierStart c = true) :
    look c = .letter := by
  have other {d : Char} (plain : Text.isIdentifierStart d = false) : c ≠ d := by
    rintro rfl
    rw [plain] at start
    cases start
  have visible : isBlank c = false := by
    simp [isBlank, @other ' ' rfl, @other '\t' rfl, @other '\r' rfl, @other '\n' rfl]
  have digit : c.isDigit = false := by
    cases digit : c.isDigit with
    | false => rfl
    | true =>
        have range : 48 ≤ c.toNat ∧ c.toNat ≤ 57 := by
          simpa [Char.isDigit, UInt32.le_iff_toNat_le] using digit
        have alpha : c.isAlpha = true := by
          rwa [Text.isIdentifierStart, if_pos (by omega)] at start
        have letter := isAlpha_iff.1 alpha
        omega
  simp [look, visible, @other '(' rfl, @other ')' rfl, @other ',' rfl, @other '<' rfl,
    @other '=' rfl, @other '>' rfl, digit, @other '+' rfl, @other '-' rfl, @other '.' rfl,
    @other '\'' rfl, @other '"' rfl]

/-- The small letter of a capital letter. All other characters stay as they are. -/
theorem toLower_cases (c : Char) :
    c.toLower = c ∨ (c.isUpper = true ∧ c.toLower.toNat = c.toNat + 32) := by
  by_cases upper : c.isUpper = true
  · have range := isUpper_iff.1 upper
    have value : c.toLower.val = c.val + ('a'.val - 'A'.val) := congrArg Char.val (dif_pos range)
    have sum := congrArg UInt32.toNat value
    rw [UInt32.toNat_add, show ('a'.val - 'A'.val).toNat = 32 from rfl] at sum
    have small : c.val.toNat ≤ 90 := range.2
    refine .inr ⟨upper, sum.trans (Nat.mod_eq_of_lt ?_)⟩
    omega
  · exact .inl (dif_neg fun range => upper (isUpper_iff.2 range))

theorem isAlpha_of_toLower {c : Char} (lower : c.toLower.isLower = true) : c.isAlpha = true := by
  rcases toLower_cases c with same | ⟨upper, _⟩
  · rw [same] at lower
    exact Bool.or_eq_true_iff.2 (.inr lower)
  · exact Bool.or_eq_true_iff.2 (.inl upper)

theorem isIdentifierStart_of_isAlpha {c : Char} (alpha : c.isAlpha = true) :
    Text.isIdentifierStart c = true := by
  have letter := isAlpha_iff.1 alpha
  rw [Text.isIdentifierStart, if_pos (by omega)]
  exact alpha

theorem isIdentifierContinue_of_isIdentifierStart {c : Char}
    (start : Text.isIdentifierStart c = true) : Text.isIdentifierContinue c = true := by
  rw [Text.isIdentifierContinue]
  split
  · next ascii =>
      rw [Text.isIdentifierStart, if_pos ascii] at start
      rw [Char.isAlphanum, start]
      rfl
  · rw [start]
    rfl

namespace Pattern

/-- Whether the first character of what the pattern takes is sure to have one of the given looks. -/
def beginsWith (looks : List Look) : Pattern → Bool
  | .literal word => word.toList.head?.all fun c => looks.contains (look c)
  | .caseless word => word.toList.head?.all fun c => c.toLower.isLower && looks.contains .letter
  | .one .digit => looks.contains .numeric
  | .one .identifierStart => looks.contains .letter
  | .one _ => false
  | .seq first second =>
      first.beginsWith looks && (!first.mayBeEmpty || second.beginsWith looks)
  | .alt first second => first.beginsWith looks && second.beginsWith looks
  | .opt inner | .many inner => inner.beginsWith looks
  | .not _ => true

theorem look_of_takes {pattern : Pattern} {looks : List Look} {c : Char} {cs : List Char}
    (taken : pattern.Takes (c :: cs)) (begins : pattern.beginsWith looks = true) :
    look c ∈ looks := by
  induction pattern generalizing cs with
  | literal word =>
      rw [beginsWith, ← show c :: cs = word.toList from taken] at begins
      exact List.contains_iff_mem.1 begins
  | caseless word =>
      cases letters : word.toList with
      | nil =>
          have empty : (c :: cs).map Char.toLower = word.toList.map Char.toLower := taken
          rw [letters] at empty
          cases empty
      | cons w ws =>
          have same : (c :: cs).map Char.toLower = word.toList.map Char.toLower := taken
          rw [letters, List.map_cons, List.map_cons] at same
          rw [beginsWith, letters] at begins
          obtain ⟨lower, among⟩ := Bool.and_eq_true_iff.1 (show (w.toLower.isLower &&
            looks.contains .letter) = true from begins)
          rw [← (List.cons.inj same).1] at lower
          rw [look_of_isIdentifierStart (isIdentifierStart_of_isAlpha (isAlpha_of_toLower lower))]
          exact List.contains_iff_mem.1 among
  | one cls =>
      obtain ⟨d, belongs, whole⟩ := taken
      cases whole
      cases cls with
      | digit =>
          rw [look_of_isDigit belongs]
          exact List.contains_iff_mem.1 begins
      | identifierStart =>
          rw [look_of_isIdentifierStart belongs]
          exact List.contains_iff_mem.1 begins
      | any | identifierContinue => cases begins
  | seq first second ihFirst ihSecond =>
      obtain ⟨one, two⟩ := Bool.and_eq_true_iff.1 begins
      obtain ⟨xs, ys, front, back, whole⟩ := taken
      cases xs with
      | nil =>
          cases empty : first.mayBeEmpty with
          | false => exact absurd rfl (ne_nil_of_takes front empty)
          | true =>
              rw [empty] at two
              rw [List.nil_append] at whole
              rw [← whole] at back
              exact ihSecond back two
      | cons x xs =>
          cases whole
          exact ihFirst front one
  | alt first second ihFirst ihSecond =>
      obtain ⟨one, two⟩ := Bool.and_eq_true_iff.1 begins
      rcases taken with front | back
      · exact ihFirst front one
      · exact ihSecond back two
  | opt inner ih =>
      rcases taken with empty | taken
      · cases empty
      · exact ih taken begins
  | many inner ih =>
      obtain ⟨rounds, each, whole⟩ := taken
      induction rounds with
      | nil => cases whole
      | cons round rounds rest =>
          obtain ⟨first, others⟩ := List.forall_mem_cons.1 each
          cases round with
          | nil => exact rest others whole
          | cons x xs =>
              cases whole
              exact ih first begins
  | not inner _ => cases taken

end Pattern

end Cql.Grammar
