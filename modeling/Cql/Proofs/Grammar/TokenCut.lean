import Cql.Proofs.Grammar.TokenKind

/-!
# Tokens cut out of a text

A token that stands in a text is a token on its own: it is found in the same way when the text ends
behind it. A match can only change where a part of the pattern that had failed no longer does, and
the parts that are tried and given up match all the longer texts if they match a short one. What an
identifier must not be is the exception. There the whole word decides.
-/

namespace Cql.Grammar

namespace Pattern

variable {cs left taken rest : List Char}

/-! ## Matches that more text does not change -/

/-- Whether the first character alone decides what the pattern does. -/
def isSingle : Pattern → Bool
  | .literal word | .caseless word => word.toList.length == 1
  | .one _ => true
  | .alt first second => first.isSingle && second.isSingle
  | .seq _ _ | .opt _ | .many _ | .not _ => false

theorem takeWord_single {same : Char → Char → Bool} {word : List Char}
    (single : (word.length == 1) = true) (c : Char) :
    takeWord same word (c :: cs ++ left) = (takeWord same word (c :: cs)).map (extend left) := by
  obtain ⟨w, rfl⟩ := List.length_eq_one_iff.1 (beq_iff_eq.1 single)
  simp only [List.cons_append, takeWord]
  split <;> rfl

theorem scan_single {pattern : Pattern} (single : pattern.isSingle = true) (c : Char) :
    pattern.scan (c :: cs ++ left) = (pattern.scan (c :: cs)).map (extend left) := by
  induction pattern with
  | literal word | caseless word => exact takeWord_single single c
  | one cls =>
      simp only [List.cons_append, scan]
      split <;> rfl
  | alt first second ihFirst ihSecond =>
      obtain ⟨one, two⟩ := Bool.and_eq_true_iff.1 single
      simp only [scan, ihFirst one]
      cases first.scan (c :: cs) with
      | none => exact ihSecond two
      | some pair => rfl
  | seq _ _ | opt _ | many _ | not _ => cases single

/-- Whether a match that leaves some text over is not changed by what is added to it. -/
def isSteady : Pattern → Bool
  | .literal _ | .caseless _ | .one _ => true
  | .seq first second => first.isSteady && second.isSteady
  | .alt first second => first.isSingle && second.isSteady
  | .opt inner | .not inner => inner.isSingle
  | .many _ => false

theorem steady_of_isSteady {pattern : Pattern} (steady : pattern.isSteady = true)
    (left : List Char) : pattern.Steady left := by
  induction pattern with
  | literal word | caseless word => exact fun _ _ _ _ found => takeWord_steady found
  | one cls =>
      intro cs taken rest _ found
      cases cs with
      | nil => cases found
      | cons c cs =>
          rw [scan_single rfl, found]
          rfl
  | seq first second ihFirst ihSecond =>
      obtain ⟨one, two⟩ := Bool.and_eq_true_iff.1 steady
      exact (ihFirst one).seq (ihSecond two)
  | alt first second _ ihSecond =>
      obtain ⟨one, two⟩ := Bool.and_eq_true_iff.1 steady
      intro cs taken rest nonempty found
      have whole := eq_append_of_scan _ found
      obtain ⟨c, cs, rfl⟩ := List.exists_cons_of_ne_nil
        (whole ▸ List.append_ne_nil_of_right_ne_nil taken nonempty)
      simp only [scan, scan_single one] at found ⊢
      cases start : first.scan (c :: cs) with
      | none =>
          rw [start] at found
          exact ihSecond two nonempty found
      | some pair =>
          rw [start] at found
          cases found
          rfl
  | opt inner _ | not inner _ =>
      intro cs taken rest nonempty found
      have whole := eq_append_of_scan _ found
      obtain ⟨c, cs, rfl⟩ := List.exists_cons_of_ne_nil
        (whole ▸ List.append_ne_nil_of_right_ne_nil taken nonempty)
      simp only [scan, scan_single steady] at found ⊢
      cases start : inner.scan (c :: cs) <;> rw [start] at found <;> cases found <;> rfl
  | many _ => cases steady

/-! ## Patterns that still match when text is added -/

def isTotal : Pattern → Bool
  | .opt _ | .many _ => true
  | .literal _ | .caseless _ | .one _ | .seq _ _ | .alt _ _ | .not _ => false

/-- Whether a text that the pattern matches may be made longer and is still matched. -/
def isLasting : Pattern → Bool
  | .literal _ | .caseless _ | .one _ | .opt _ | .many _ => true
  | .seq first second =>
      (first.isLasting && second.isTotal) ||
        (first.isSteady && second.isLasting && !second.mayBeEmpty)
  | .alt first second => first.isLasting && second.isLasting
  | .not _ => false

theorem scan_of_isTotal {pattern : Pattern} (total : pattern.isTotal = true) (cs : List Char) :
    pattern.scan cs ≠ none := by
  cases pattern with
  | opt inner =>
      simp only [scan]
      split <;> exact Option.some_ne_none _
  | many inner => exact Option.some_ne_none _
  | _ => cases total

theorem scan_of_isLasting {pattern : Pattern} (lasting : pattern.isLasting = true)
    (fails : pattern.scan (cs ++ left) = none) : pattern.scan cs = none := by
  induction pattern generalizing cs with
  | literal word | caseless word =>
      cases found : takeWord _ word.toList cs with
      | none => exact found
      | some pair => rw [scan, takeWord_steady found] at fails; cases fails
  | one cls =>
      cases cs with
      | nil => rfl
      | cons c cs => rwa [scan_single rfl, Option.map_eq_none_iff] at fails
  | seq first second ihFirst ihSecond =>
      simp only [scan] at fails ⊢
      cases start : first.scan cs with
      | none => rfl
      | some pair =>
          obtain ⟨front, mid⟩ := pair
          rw [Option.map_eq_none_iff]
          rcases Bool.or_eq_true_iff.1 lasting with open' | firm
          · obtain ⟨one, two⟩ := Bool.and_eq_true_iff.1 open'
            cases start' : first.scan (cs ++ left) with
            | none => rw [ihFirst one start'] at start; cases start
            | some pair =>
                simp only [start', Option.map_eq_none_iff] at fails
                exact absurd fails (scan_of_isTotal two _)
          · simp only [Bool.and_eq_true_iff, Bool.not_eq_true'] at firm
            obtain ⟨⟨one, two⟩, visible⟩ := firm
            cases mid with
            | nil => exact scan_nil visible
            | cons c mid =>
                rw [steady_of_isSteady one left (List.cons_ne_nil c mid) start] at fails
                exact ihSecond two (Option.map_eq_none_iff.1 fails)
  | alt first second ihFirst ihSecond =>
      obtain ⟨one, two⟩ := Bool.and_eq_true_iff.1 lasting
      simp only [scan] at fails ⊢
      split at fails
      · next missed => rw [ihFirst one missed, ihSecond two fails]
      · cases fails
  | opt _ _ | many _ _ => exact absurd fails (scan_of_isTotal rfl _)
  | not _ _ => cases lasting

/-! ## Matches that cutting text off does not change -/

/-- Whether a match is not changed when text behind it is cut off. -/
def isCuttable : Pattern → Bool
  | .literal _ | .caseless _ | .one _ => true
  | .seq first second => first.isCuttable && second.isCuttable
  | .alt first second => first.isCuttable && first.isLasting && second.isCuttable
  | .opt inner => inner.isCuttable && inner.isLasting
  | .many inner => inner.isCuttable && inner.isLasting && !inner.mayBeEmpty
  | .not inner => inner.isLasting

/-- Nothing is taken off the end of a text that is left over as a whole. -/
theorem eq_nil_of_cut (whole : left = taken ++ (rest ++ left)) : taken = [] ∧ rest = [] := by
  have size := congrArg List.length whole
  rw [List.length_append, List.length_append] at size
  exact ⟨List.eq_nil_of_length_eq_zero (by omega), List.eq_nil_of_length_eq_zero (by omega)⟩

theorem takeWord_cut {same : Char → Char → Bool} {word : List Char}
    (found : takeWord same word (cs ++ left) = some (taken, rest ++ left)) :
    takeWord same word cs = some (taken, rest) := by
  induction word generalizing cs taken with
  | nil =>
      simp only [takeWord, Option.some.injEq, Prod.mk.injEq] at found
      rw [takeWord, ← found.1, List.append_cancel_right found.2]
  | cons w ws ih =>
      cases cs with
      | nil =>
          obtain ⟨rfl, rfl⟩ := eq_nil_of_cut (eq_append_of_takeWord found)
          cases left with
          | nil => cases found
          | cons c left =>
              simp only [List.nil_append, takeWord] at found
              split at found
              · obtain ⟨pair, _, same⟩ := Option.map_eq_some_iff.1 found
                cases same
              · cases found
      | cons c cs =>
          simp only [List.cons_append, takeWord] at found ⊢
          split at found
          · next agrees =>
              obtain ⟨⟨front, back⟩, inner, pair⟩ := Option.map_eq_some_iff.1 found
              cases pair
              rw [if_pos agrees, ih inner]
              rfl
          · cases found

/-- A repetition is not changed by cutting text off if none of its rounds is. -/
theorem scanRounds_cut {scan : List Char → Option (List Char × List Char)}
    (keeps : ∀ cs taken left, scan cs = some (taken, left) → cs = taken ++ left)
    (shrinks : ∀ {cs taken left}, scan cs = some (taken, left) → left.length < cs.length)
    (round : ∀ {cs taken rest}, scan (cs ++ left) = some (taken, rest ++ left) →
      scan cs = some (taken, rest))
    (fails : ∀ {cs}, scan (cs ++ left) = none → scan cs = none)
    {limit limit' : List Char} (enough : cs.length ≤ limit.length)
    (enough' : (cs ++ left).length ≤ limit'.length)
    (found : scanRounds scan limit' (cs ++ left) = (taken, rest ++ left)) :
    scanRounds scan limit cs = (taken, rest) := by
  induction limit generalizing cs limit' taken with
  | nil =>
      obtain rfl := List.eq_nil_of_length_eq_zero (Nat.le_zero.1 enough)
      have whole := scanRounds_append keeps limit' left
      rw [show scanRounds scan limit' left = _ from found] at whole
      obtain ⟨rfl, rfl⟩ := eq_nil_of_cut whole.symm
      rfl
  | cons _ limit ih =>
      cases limit' with
      | nil =>
          obtain ⟨rfl, rfl⟩ := List.append_eq_nil_iff.1
            (List.eq_nil_of_length_eq_zero (Nat.le_zero.1 enough'))
          have atEnd : scan [] = none := by
            cases start : scan [] with
            | none => rfl
            | some pair => exact absurd (shrinks start) (Nat.not_lt_zero _)
          rw [scanRounds, atEnd]
          simpa [scanRounds] using found
      | cons _ limit' =>
          simp only [scanRounds] at found ⊢
          cases start : scan (cs ++ left) with
          | none =>
              rw [start] at found
              obtain ⟨rfl, same⟩ := Prod.mk.inj found
              rw [fails start, List.append_cancel_right same]
          | some pair =>
              obtain ⟨front, back⟩ := pair
              have shorter := shrinks start
              have whole := scanRounds_append keeps limit' back
              cases later : scanRounds scan limit' back with
              | mk more last =>
                  simp only [start, later, Prod.mk.injEq] at found whole
                  obtain ⟨rfl, rfl⟩ := found
                  rw [← List.append_assoc] at whole
                  subst whole
                  have short := round start
                  have fewer := shrinks short
                  have inner := ih (Nat.le_of_lt_succ (Nat.lt_of_lt_of_le fewer enough))
                    (Nat.le_of_lt_succ (Nat.lt_of_lt_of_le shorter enough')) later
                  simp only [short, inner]

/-- A match is not changed when text behind it is cut off. -/
theorem scan_cut {pattern : Pattern} (cuttable : pattern.isCuttable = true)
    (found : pattern.scan (cs ++ left) = some (taken, rest ++ left)) :
    pattern.scan cs = some (taken, rest) := by
  induction pattern generalizing cs taken rest with
  | literal word | caseless word => exact takeWord_cut found
  | one cls =>
      cases cs with
      | nil =>
          obtain ⟨rfl, rfl⟩ := eq_nil_of_cut (eq_append_of_scan _ found)
          exact absurd rfl (ne_nil_of_scan found rfl)
      | cons c cs =>
          rw [scan_single rfl] at found
          obtain ⟨⟨front, back⟩, inner, pair⟩ := Option.map_eq_some_iff.1 found
          obtain ⟨rfl, same⟩ : front = taken ∧ back ++ left = rest ++ left := Prod.mk.inj pair
          rw [inner, List.append_cancel_right same]
  | seq first second ihFirst ihSecond =>
      obtain ⟨one, two⟩ := Bool.and_eq_true_iff.1 cuttable
      simp only [scan] at found ⊢
      split at found
      · cases found
      · next front mid start =>
          obtain ⟨⟨back, last⟩, finish, pair⟩ := Option.map_eq_some_iff.1 found
          obtain ⟨rfl, rfl⟩ := Prod.mk.inj pair
          have middle : mid = back ++ rest ++ left := by
            rw [List.append_assoc]
            exact eq_append_of_scan _ finish
          subst middle
          rw [ihFirst one start, Option.map_eq_some_iff]
          exact ⟨(back, rest), ihSecond two finish, rfl⟩
  | alt first second ihFirst ihSecond =>
      simp only [isCuttable, Bool.and_eq_true] at cuttable
      obtain ⟨⟨one, lasting⟩, two⟩ := cuttable
      simp only [scan] at found ⊢
      split at found
      · next fails => rw [scan_of_isLasting lasting fails, ihSecond two found]
      · next start =>
          cases found
          rw [ihFirst one start]
  | opt inner ih =>
      obtain ⟨one, lasting⟩ := Bool.and_eq_true_iff.1 cuttable
      simp only [scan] at found ⊢
      split at found
      · next fails =>
          obtain ⟨rfl, same⟩ := Prod.mk.inj (Option.some.inj found)
          rw [scan_of_isLasting lasting fails, List.append_cancel_right same]
      · next start =>
          cases found
          rw [ih one start]
  | many inner ih =>
      simp only [isCuttable, Bool.and_eq_true, Bool.not_eq_true'] at cuttable
      obtain ⟨⟨one, lasting⟩, visible⟩ := cuttable
      simp only [scan, Option.some.injEq] at found ⊢
      exact scanRounds_cut (fun _ _ _ => eq_append_of_scan inner)
        (fun found => shrinks_of_scan visible found) (fun found => ih one found)
        (fun fails => scan_of_isLasting lasting fails) (Nat.le_refl _) (Nat.le_refl _) found
  | not inner _ =>
      simp only [scan] at found ⊢
      split at found
      · next fails =>
          obtain ⟨rfl, same⟩ := Prod.mk.inj (Option.some.inj found)
          rw [scan_of_isLasting cuttable fails, List.append_cancel_right same]
      · cases found

/-- A repetition ends where what it repeats fails. -/
theorem scan_of_many {inner : Pattern} (visible : inner.mayBeEmpty = false)
    (found : (many inner).scan cs = some (taken, left)) : inner.scan left = none := by
  have ends (limit cs : List Char) (enough : cs.length ≤ limit.length) :
      inner.scan (scanRounds inner.scan limit cs).2 = none := by
    induction limit generalizing cs with
    | nil =>
        obtain rfl := List.eq_nil_of_length_eq_zero (Nat.le_zero.1 enough)
        exact scan_nil visible
    | cons _ limit ih =>
        simp only [scanRounds]
        split
        · next fails => exact fails
        · next front back start =>
            have shorter := shrinks_of_scan visible start
            exact ih back (Nat.le_of_lt_succ (Nat.lt_of_lt_of_le shorter enough))
  have last := ends cs cs (Nat.le_refl _)
  rwa [Option.some.inj found] at last

/-- A repetition takes the characters that make a round each, up to where what it repeats fails. -/
theorem scanRounds_of_forall {scan : List Char → Option (List Char × List Char)}
    (each : ∀ c ∈ taken, ∀ left, scan (c :: left) = some ([c], left)) (stops : scan left = none)
    {limit : List Char} (enough : taken.length ≤ limit.length) :
    scanRounds scan limit (taken ++ left) = (taken, left) := by
  induction taken generalizing limit with
  | nil =>
      cases limit with
      | nil => rfl
      | cons _ limit => rw [List.nil_append, scanRounds, stops]
  | cons c taken ih =>
      obtain ⟨first, others⟩ := List.forall_mem_cons.1 each
      cases limit with
      | nil => cases enough
      | cons _ limit =>
          rw [List.cons_append, scanRounds, first]
          simp only [ih others (Nat.le_of_succ_le_succ enough), List.singleton_append]

theorem exists_scan_of_firstOf {patterns : List Pattern} {found : List Char × List Char}
    (nonempty : patterns ≠ []) (scanned : (firstOf patterns).scan cs = some found) :
    ∃ pattern ∈ patterns, pattern.scan cs = .some found := by
  induction patterns with
  | nil => exact absurd rfl nonempty
  | cons first patterns ih =>
      cases patterns with
      | nil => exact ⟨first, List.mem_singleton_self _, scanned⟩
      | cons next others =>
          change Pattern.scan (.alt first (firstOf (next :: others))) cs = _ at scanned
          simp only [scan] at scanned
          split at scanned
          · obtain ⟨pattern, among, later⟩ := ih (List.cons_ne_nil _ _) scanned
            exact ⟨pattern, List.mem_cons_of_mem _ among, later⟩
          · next start =>
              cases scanned
              exact ⟨first, List.mem_cons_self, start⟩

theorem scan_wholeWord_of_scan {pattern : Pattern} (found : pattern.scan cs = some (taken, left))
    (ends : identifierPart.scan left = none) :
    (wholeWord pattern).scan cs = some (taken, left) := by
  change Pattern.scan (.seq pattern (.not identifierPart)) cs = _
  simp only [scan, found, ends, Option.map_some, List.append_nil]

end Pattern

/-! ## Identifiers -/

/-- Whether the character may stand inside an identifier without quotes. -/
def isIdentifierPart (c : Char) : Bool :=
  Text.isIdentifierContinue c || c == '.' || c == ':'

theorem scan_identifierPart (c : Char) (cs : List Char) :
    Pattern.identifierPart.scan (c :: cs)
      = if isIdentifierPart c then some ([c], cs) else none := by
  change Pattern.scan (.alt (.one .identifierContinue) (.alt (.literal ".") (.literal ":"))) _ = _
  by_cases part : Text.isIdentifierContinue c = true
  · simp [Pattern.scan, CharClass.contains, isIdentifierPart, part]
  · by_cases dot : c = '.'
    · subst dot
      rfl
    · by_cases colon : c = ':'
      · subst colon
        rfl
      · simp [Pattern.scan, CharClass.contains, isIdentifierPart, part, takeWord, dot, colon,
          Ne.symm dot, Ne.symm colon]

/-- A word: a character that may begin an identifier, and all that follow and may stand in one. -/
def Pattern.word : Pattern :=
  .seq .identifierStart (.many .identifierPart)

/-- The characters of a word may stand inside an identifier, and none of those follows. -/
theorem parts_of_word {cs taken left : List Char}
    (found : Pattern.word.scan cs = some (taken, left)) :
    (∀ part ∈ taken, isIdentifierPart part = true) ∧ Pattern.identifierPart.scan left = none := by
  rw [Pattern.word, Pattern.scan] at found
  split at found
  · cases found
  · next front mid start =>
      obtain ⟨⟨parts, rest⟩, more, pair⟩ := Option.map_eq_some_iff.1 found
      cases pair
      refine ⟨fun part among => ?_, Pattern.scan_of_many (by decide) more⟩
      rcases List.mem_append.1 among with first | later
      · rcases Pattern.takes_of_scan _ start with ⟨c, begins, rfl⟩ | line
        · rw [List.mem_singleton.1 first, isIdentifierPart,
            isIdentifierContinue_of_isIdentifierStart begins]
          rfl
        · rw [show front = ['_'] from line] at first
          rw [List.mem_singleton.1 first]
          rfl
      · have each (cs taken left : List Char)
            (found : Pattern.identifierPart.scan cs = some (taken, left)) :
            ∀ c ∈ taken, isIdentifierPart c = true := by
          cases cs with
          | nil => cases found
          | cons c cs =>
              rw [scan_identifierPart] at found
              split at found <;> cases found
              next part => exact List.forall_mem_singleton.2 part
        obtain ⟨rounds, all, flat⟩ := Pattern.exists_rounds_of_scanRounds each mid mid
        have flat : parts = rounds.flatten := by rwa [Option.some.inj more] at flat
        rw [flat] at later
        obtain ⟨round, member, here⟩ := List.mem_flatten.1 later
        exact all round member part here

/-- A character that may begin an identifier, some that may stand in one, and none behind them. -/
theorem scan_word {c : Char} {cs left : List Char}
    (begins : Text.isIdentifierStart c = true ∨ c = '_')
    (parts : ∀ part ∈ cs, isIdentifierPart part = true)
    (stops : Pattern.identifierPart.scan left = none) :
    Pattern.word.scan (c :: cs ++ left) = some (c :: cs, left) := by
  have start : Pattern.identifierStart.scan (c :: (cs ++ left)) = some ([c], cs ++ left) := by
    change Pattern.scan (.alt (.one .identifierStart) (.literal "_")) _ = _
    rcases begins with letter | rfl
    · simp [Pattern.scan, CharClass.contains, letter]
    · rfl
  have each (part : Char) (among : part ∈ cs) (left : List Char) :
      Pattern.identifierPart.scan (part :: left) = some ([part], left) := by
    rw [scan_identifierPart, if_pos (parts part among)]
  have rounds := Pattern.scanRounds_of_forall each stops
    (show cs.length ≤ (cs ++ left).length by simp)
  rw [Pattern.word, Pattern.scan, List.cons_append, start]
  simp only [Pattern.scan, rounds, Option.map_some, List.singleton_append]

def isWordOf (rule : Rule) (word : List Char) : Bool :=
  (wordsOf rule).any fun reserved => lowered word == lowered reserved.toList

theorem isWordOf_iff {rule : Rule} {word : List Char} :
    isWordOf rule word = true ↔ ∃ reserved ∈ wordsOf rule,
      lowered word = lowered reserved.toList := by
  simp only [isWordOf, List.any_eq_true, beq_iff_eq]

theorem eq_of_word_prefix : ∀ rule ∈ reservedRules, ∀ word ∈ wordsOf rule,
    ∀ other ∈ wordsOf rule, lowered word.toList <+: lowered other.toList → word = other := by
  have known : (reservedRules.all fun rule => (wordsOf rule).all fun word =>
      (wordsOf rule).all fun other =>
        word == other || !(lowered word.toList).isPrefixOf (lowered other.toList)) = true := by
    decide +kernel
  intro rule reserved word among other among' front
  have settled := List.all_eq_true.1 (List.all_eq_true.1 (List.all_eq_true.1 known rule reserved)
    word among) other among'
  rw [List.isPrefixOf_iff_prefix.2 front, Bool.not_true, Bool.or_false] at settled
  exact beq_iff_eq.1 settled

theorem scan_caseless {word : String} {text : List Char} (left : List Char)
    (same : lowered text = lowered word.toList) :
    (Pattern.caseless word).scan (text ++ left) = some (text, left) := by
  change takeWord Text.sameLetter word.toList (text ++ left) = _
  generalize word.toList = letters at same
  induction letters generalizing text with
  | nil =>
      rw [List.map_eq_nil_iff.1 same]
      rfl
  | cons w ws ih =>
      cases text with
      | nil => cases same
      | cons c cs =>
          obtain ⟨letter, others⟩ := List.cons.inj same
          have agrees : Text.sameLetter w c = true := beq_iff_eq.2 letter.symm
          rw [List.cons_append, takeWord, if_pos agrees, ih others]
          rfl

/-- What a reserved word takes off the front of a word is no longer than the word. -/
theorem le_word_of_lowered {rule : Rule} (reserved : rule ∈ reservedRules) {named : String}
    (among : named ∈ wordsOf rule) {word rest taken left : List Char}
    (stops : Pattern.identifierPart.scan rest = none) (whole : word ++ rest = taken ++ left)
    (same : lowered taken = lowered named.toList) :
    ∃ back, word = taken ++ back ∧ left = back ++ rest := by
  rcases List.append_eq_append_iff.1 whole with ⟨beyond, rfl, more⟩ | ⟨back, inside, after⟩
  · cases beyond with
    | nil => exact ⟨[], by simp, by simpa using more.symm⟩
    | cons d beyond =>
        have letter : d.toLower ∈ lowered named.toList := by
          rw [← same]
          exact List.mem_map_of_mem (List.mem_append_right _ List.mem_cons_self)
        rw [more] at stops
        exact absurd stops
          (isIdentifierPart_of_letter (letters_of_word rule reserved named among _ letter) _)
  · exact ⟨back, inside, after⟩

/-- Whether a rule for reserved words takes a word depends on the word alone, and it takes all of it
or nothing. -/
theorem scan_of_word {rule : Rule} (reserved : rule ∈ reservedRules) {pattern : Pattern}
    (defined : definition rule = .token pattern) {word left : List Char}
    (found : Pattern.word.scan (word ++ left) = some (word, left)) :
    pattern.scan (word ++ left) = if isWordOf rule word then some (word, left) else none := by
  obtain ⟨parts, stops⟩ := parts_of_word found
  split
  · next listed =>
      obtain ⟨named, among, same⟩ := isWordOf_iff.1 listed
      rw [definition_of_reserved reserved] at defined
      cases defined
      refine Pattern.scan_wholeWord_of_scan ?_ stops
      cases hit : (Pattern.firstOf ((wordsOf rule).map .caseless)).scan (word ++ left) with
      | none =>
          have fails := Pattern.scan_firstOf hit (List.mem_map_of_mem among)
          rw [scan_caseless left same] at fails
          cases fails
      | some pair =>
          obtain ⟨taken, rest⟩ := pair
          obtain ⟨_, member, first⟩ := Pattern.exists_scan_of_firstOf
            (by simpa using wordsOf_ne_nil reserved) hit
          obtain ⟨other, among', rfl⟩ := List.mem_map.1 member
          have same' : lowered taken = lowered other.toList := Pattern.takes_of_scan _ first
          obtain ⟨back, rfl, rfl⟩ := le_word_of_lowered reserved among' stops
            (Pattern.eq_append_of_scan _ first) same'
          have front : lowered other.toList <+: lowered named.toList := by
            rw [← same', ← same, lowered, lowered, List.map_append]
            exact List.prefix_append _ _
          obtain rfl := eq_of_word_prefix rule reserved other among' named among front
          have size := congrArg List.length (same'.trans same.symm)
          simp only [lowered, List.length_map, List.length_append, Nat.left_eq_add,
            List.length_eq_zero_iff] at size
          rw [size, List.append_nil, List.nil_append]
  · next other =>
      cases hit : pattern.scan (word ++ left) with
      | none => rfl
      | some pair =>
          obtain ⟨taken, rest⟩ := pair
          obtain ⟨⟨named, among, same⟩, ends⟩ := word_of_scan reserved defined hit
          obtain ⟨back, rfl, rfl⟩ := le_word_of_lowered reserved among stops
            (Pattern.eq_append_of_scan _ hit) same
          cases back with
          | nil =>
              rw [List.append_nil] at other
              exact absurd (isWordOf_iff.2 ⟨named, among, same⟩) other
          | cons d back =>
              have inside : isIdentifierPart d = true :=
                parts d (List.mem_append_right _ List.mem_cons_self)
              rw [List.cons_append, scan_identifierPart, if_pos inside] at ends
              cases ends

theorem word_of_reserved {rule : Rule} (reserved : rule ∈ reservedRules) {pattern : Pattern}
    (defined : definition rule = .token pattern) {text left : List Char} (visible : text ≠ [])
    (found : pattern.scan (text ++ left) = some (text, left)) :
    Pattern.word.scan (text ++ left) = some (text, left) := by
  obtain ⟨⟨named, among, same⟩, stops⟩ := word_of_scan reserved defined found
  have letters : ∀ c ∈ text, c.toLower.isLower = true ∨ c.toLower = '_' := fun c member =>
    letters_of_word rule reserved named among _ (same ▸ List.mem_map_of_mem member)
  obtain ⟨c, cs, rfl⟩ := List.exists_cons_of_ne_nil visible
  refine scan_word ?_ (fun part member => ?_) stops
  · exact (letters c List.mem_cons_self).imp
      (fun lower => isIdentifierStart_of_isAlpha (isAlpha_of_toLower lower)) eq_of_toLower_line
  · have takes := isIdentifierPart_of_letter (letters part (List.mem_cons_of_mem c member)) []
    rw [scan_identifierPart] at takes
    exact Decidable.byContradiction fun other => takes (if_neg other)

theorem scan_bareIdentifier_of_anyKeyword {cs : List Char}
    (free : Pattern.anyKeyword.scan cs = none) :
    Pattern.bareIdentifier.scan cs = Pattern.word.scan cs := by
  change Pattern.scan (.seq (.seq (.not .anyKeyword) .identifierStart) (.many .identifierPart)) cs
    = _
  simp only [Pattern.word, Pattern.scan, free]
  cases Pattern.identifierStart.scan cs <;> rfl

theorem scan_bareIdentifier_of_word {word left : List Char}
    (found : Pattern.word.scan (word ++ left) = some (word, left)) :
    Pattern.bareIdentifier.scan (word ++ left) =
      if reservedRules.any fun rule => isWordOf rule word then none else some (word, left) := by
  split
  · next named =>
      obtain ⟨rule, reserved, named⟩ := List.any_eq_true.1 named
      have taken := scan_of_word reserved (definition_of_reserved reserved) found
      rw [if_pos named] at taken
      cases hit : Pattern.bareIdentifier.scan (word ++ left) with
      | none => rfl
      | some pair =>
          rw [scan_of_anyKeyword (scan_bareIdentifier hit) reserved
            (definition_of_reserved reserved)] at taken
          cases taken
  · next free =>
      rw [scan_bareIdentifier_of_anyKeyword, found]
      cases hit : Pattern.anyKeyword.scan (word ++ left) with
      | none => rfl
      | some pair =>
          rw [anyKeyword_eq] at hit
          obtain ⟨_, among, taken⟩ := Pattern.exists_scan_of_firstOf (by decide) hit
          obtain ⟨rule, reserved, rfl⟩ := List.mem_map.1 among
          rw [scan_of_word reserved (definition_of_reserved reserved) found] at taken
          split at taken
          · next named => exact absurd (List.any_eq_true.2 ⟨rule, reserved, named⟩) free
          · cases taken

/-- What stands as an identifier without quotes is a word. -/
theorem word_of_bareIdentifier {cs : List Char} {found : List Char × List Char}
    (scanned : Pattern.bareIdentifier.scan cs = some found) :
    Pattern.word.scan cs = some found := by
  rwa [scan_bareIdentifier_of_anyKeyword (scan_bareIdentifier scanned)] at scanned

/-! ## Tokens -/

theorem identifier_cut {text left : List Char}
    (found : (Pattern.quotedIdentifier <|> Pattern.bareIdentifier).scan (text ++ left)
      = some (text, left)) :
    (Pattern.quotedIdentifier <|> Pattern.bareIdentifier).scan text = some (text, []) := by
  change Pattern.scan (.alt .quotedIdentifier .bareIdentifier) _ = _
  change Pattern.scan (.alt .quotedIdentifier .bareIdentifier) _ = _ at found
  simp only [Pattern.scan] at found ⊢
  split at found
  · have word := word_of_bareIdentifier found
    have short : Pattern.word.scan (text ++ []) = some (text, []) := by
      rw [List.append_nil]
      exact Pattern.scan_cut rfl word
    have bare := scan_bareIdentifier_of_word short
    rw [scan_bareIdentifier_of_word word] at found
    split at found
    · cases found
    · next free =>
        rw [if_neg free, List.append_nil] at bare
        obtain ⟨c, cs, rfl⟩ := List.exists_cons_of_ne_nil (Pattern.ne_nil_of_scan word rfl)
        have letter : look c ∈ [Look.letter] :=
          Pattern.look_of_takes (Pattern.takes_of_scan _ word) rfl
        rw [scan_quotedIdentifier_of_look letter, bare]
  · next quoted =>
      cases found
      have short : Pattern.quotedIdentifier.scan text = some (text, []) :=
        Pattern.scan_cut rfl quoted
      rw [short]

/-- All tokens but identifiers may be cut out of a text. -/
theorem isCuttable_definition (rule : Rule) :
    (rule == .identifier || match definition rule with
      | .token pattern => pattern.isCuttable
      | _ => true) = true := by
  cases rule with
  | keyword word => cases word <;> rfl
  | _ => rfl

/-- What stands in a text as a token is one. -/
theorem reads_of_scan {rule : Rule} {pattern : Pattern} {text left : List Char}
    (defined : definition rule = .token pattern) (proper : rule ≠ .endOfInput)
    (found : pattern.scan (text ++ left) = .some (text, left)) :
    (Terminal.token rule).Reads text := by
  refine ⟨Pattern.ne_nil_of_scan found (begins_of_token defined proper).2, pattern, defined, ?_⟩
  by_cases named : rule = .identifier
  · subst named
    cases defined
    exact identifier_cut found
  · have known := isCuttable_definition rule
    rw [defined, beq_false_of_ne named, Bool.false_or] at known
    exact Pattern.scan_cut known found

end Cql.Grammar
