import Cql.Proofs.Grammar.Token

/-!
# Kinds of tokens

The kinds of tokens that the grammar is written in are punctuation marks and the rules for tokens.
Of most pairs of kinds no text is of both, and then a place at which one of them stands is refused
by the other.
-/

namespace Cql.Grammar

inductive Terminal where
  /-- A punctuation mark. -/
  | symbol (mark : Char)
  /-- A rule for tokens. -/
  | token (rule : Rule)
  deriving DecidableEq, Repr

def looksOf : Rule → List Look
  | .comparisonOperator => [.comparison]
  | .characterLiteral | .dateString | .timestampString | .dotDotString => [.apostrophe]
  | .numericLiteral | .xCoord | .yCoord | .zCoord | .westBoundLon | .eastBoundLon | .northBoundLat
  | .southBoundLat | .minElev | .maxElev => [.numeric]
  | .booleanLiteral | .spatialFunction | .temporalFunction | .arrayFunction | .keyword _ =>
      [.letter]
  | .identifier => [.quotation, .letter]
  | _ => []

def wordsOf : Rule → List String
  | .booleanLiteral => ["true", "false"]
  | .spatialFunction => Pattern.spatialWords
  | .temporalFunction => Pattern.temporalWords
  | .arrayFunction => Pattern.arrayWords
  | .keyword word => [word.word]
  | _ => []

def reservedRules : List Rule :=
  Keyword.all.map .keyword ++ [.booleanLiteral, .spatialFunction, .temporalFunction, .arrayFunction]

/-! ## Rules for tokens -/

theorem begins_definition (rule : Rule) :
    (rule == .endOfInput || match definition rule with
      | .token pattern => pattern.beginsWith (looksOf rule) && !pattern.mayBeEmpty
      | _ => true) = true := by
  cases rule with
  | keyword word => cases word <;> rfl
  | _ => rfl

/-- The tokens of a rule have a first character, and it looks as the rule says. -/
theorem begins_of_token {rule : Rule} {pattern : Pattern}
    (defined : definition rule = .token pattern) (proper : rule ≠ .endOfInput) :
    pattern.beginsWith (looksOf rule) = true ∧ pattern.mayBeEmpty = false := by
  have known := begins_definition rule
  rw [defined, beq_false_of_ne proper, Bool.false_or, Bool.and_eq_true_iff, Bool.not_eq_true']
    at known
  exact known

/-- Quotation marks are all that may have a blank inside. -/
theorem shuns_definition (rule : Rule) :
    ([Rule.characterLiteral, .identifier, .endOfInput].contains rule || match definition rule with
      | .token pattern => pattern.shuns blanks
      | _ => true) = true := by
  cases rule with
  | keyword word => cases word <;> rfl
  | _ => rfl

theorem shuns_of_token {rule : Rule} {pattern : Pattern}
    (defined : definition rule = .token pattern)
    (plain : rule ∉ [Rule.characterLiteral, .identifier, .endOfInput]) :
    pattern.shuns blanks = true := by
  have known := shuns_definition rule
  rwa [defined, List.contains_eq_mem, decide_eq_false plain, Bool.false_or] at known

/-- A pattern fails at a first character that does not look right. -/
theorem Pattern.scan_of_look {pattern : Pattern} {looks : List Look} {c : Char} {cs : List Char}
    (begins : pattern.beginsWith looks = true) (visible : pattern.mayBeEmpty = false)
    (other : look c ∉ looks) : pattern.scan (c :: cs) = none := by
  cases found : pattern.scan (c :: cs) with
  | none => rfl
  | some pair =>
      obtain ⟨taken, left⟩ := pair
      have whole := pattern.eq_append_of_scan found
      have takes := pattern.takes_of_scan found
      cases taken with
      | nil => exact absurd rfl (ne_nil_of_takes takes visible)
      | cons d taken =>
          cases whole
          exact absurd (look_of_takes takes begins) other

theorem scan_quotedIdentifier_of_look {c : Char} {cs : List Char}
    (letter : look c ∈ [Look.letter]) : Pattern.quotedIdentifier.scan (c :: cs) = none := by
  refine Pattern.scan_of_look (show Pattern.beginsWith [Look.quotation] _ = true from rfl) rfl ?_
  rw [List.mem_singleton.1 letter]
  decide

/-- An identifier ends with its closing mark or, without quotes, before the blank. -/
theorem scan_identifier_append {text left : List Char} (visible : text ≠ [])
    (whole : (Pattern.quotedIdentifier <|> Pattern.bareIdentifier).scan text = some (text, []))
    (ended : Ended left) :
    (Pattern.quotedIdentifier <|> Pattern.bareIdentifier).scan (text ++ left)
      = some (text, left) := by
  change Pattern.scan (.alt .quotedIdentifier .bareIdentifier) _ = _
  change Pattern.scan (.alt .quotedIdentifier .bareIdentifier) _ = _ at whole
  simp only [Pattern.scan] at whole ⊢
  cases quoted : Pattern.quotedIdentifier.scan text with
  | some found =>
      rw [quoted] at whole
      cases whole
      have steady : (Pattern.many1 (Pattern.quotedChar "\"")).Steady left :=
        Pattern.Steady.seq (.quotedChar rfl (ended.head_ne (by decide)))
          (.many_quotedChar rfl (ended.head_ne (by decide)))
      rw [show Pattern.quotedIdentifier.scan (text ++ left) = some (text, [] ++ left) from
        Pattern.scan_quoted (show "\"".toList = ['"'] from rfl) steady quoted]
      rfl
  | none =>
      rw [quoted] at whole
      obtain ⟨c, cs, rfl⟩ := List.exists_cons_of_ne_nil visible
      have letter : look c ∈ [Look.letter] :=
        Pattern.look_of_takes (Pattern.takes_of_scan _ whole) rfl
      have bare : Pattern.bareIdentifier.scan (c :: cs) = some (c :: cs, []) := whole
      rw [List.cons_append, scan_quotedIdentifier_of_look letter, ← List.cons_append,
        Pattern.scan_append (by decide +kernel) ended, bare]
      rfl

/-- A token is read in the same way when a blank follows. -/
theorem scan_of_token {rule : Rule} {pattern : Pattern} {text left : List Char}
    (defined : definition rule = .token pattern) (visible : text ≠ [])
    (whole : pattern.scan text = some (text, [])) (ended : Ended left) :
    pattern.scan (text ++ left) = some (text, left) := by
  by_cases quoted : rule ∈ [Rule.characterLiteral, .identifier, .endOfInput]
  · simp only [List.mem_cons, List.not_mem_nil, or_false] at quoted
    rcases quoted with rfl | rfl | rfl
    · cases defined
      exact Pattern.scan_quoted (show "'".toList = ['\''] from rfl)
        (.many_quotedChar rfl (ended.head_ne (by decide))) whole
    · cases defined
      exact scan_identifier_append visible whole ended
    · cases defined
      exact absurd (Pattern.takes_of_scan _ whole) visible
  · rw [Pattern.scan_append (shuns_of_token defined quoted) ended, whole]
    rfl

/-! ## Reserved words -/

def isReserved : Rule → Bool
  | .keyword _ | .booleanLiteral | .spatialFunction | .temporalFunction | .arrayFunction => true
  | _ => false

theorem isReserved_of_mem {rule : Rule} (reserved : rule ∈ reservedRules) :
    isReserved rule = true :=
  List.all_eq_true.1 (show reservedRules.all isReserved = true from rfl) rule reserved

theorem mem_reservedRules {rule : Rule} (reserved : isReserved rule = true) :
    rule ∈ reservedRules := by
  cases rule with
  | keyword word => cases word <;> decide
  | booleanLiteral | spatialFunction | temporalFunction | arrayFunction => decide
  | _ => cases reserved

/-- Reserved words are read without regard to case, and as whole words. -/
theorem definition_of_reserved {rule : Rule} (reserved : rule ∈ reservedRules) :
    definition rule = .token (.wholeWord (.firstOf ((wordsOf rule).map .caseless))) := by
  have known := isReserved_of_mem reserved
  cases rule with
  | keyword _ | booleanLiteral | spatialFunction | temporalFunction | arrayFunction => rfl
  | _ => cases known

theorem wordsOf_ne_nil {rule : Rule} (reserved : rule ∈ reservedRules) : wordsOf rule ≠ [] := by
  have known := isReserved_of_mem reserved
  cases rule with
  | keyword _ | booleanLiteral | spatialFunction | temporalFunction | arrayFunction =>
      exact List.cons_ne_nil _ _
  | _ => cases known

theorem looksOf_of_reserved {rule : Rule} (reserved : rule ∈ reservedRules) :
    looksOf rule = [.letter] := by
  have known := isReserved_of_mem reserved
  cases rule with
  | keyword _ | booleanLiteral | spatialFunction | temporalFunction | arrayFunction => rfl
  | _ => cases known

theorem unquoted_of_reserved {rule : Rule} (reserved : rule ∈ reservedRules) :
    rule ∉ [Rule.characterLiteral, .identifier, .endOfInput] := by
  intro among
  simp only [List.mem_cons, List.not_mem_nil, or_false] at among
  rcases among with rfl | rfl | rfl <;> cases isReserved_of_mem reserved

def lowered (cs : List Char) : List Char :=
  cs.map Char.toLower

theorem rule_of_word : ∀ rule ∈ reservedRules, ∀ other ∈ reservedRules, rule = other ∨
    ∀ word ∈ wordsOf rule, ∀ word' ∈ wordsOf other,
      lowered word.toList ≠ lowered word'.toList := by
  have known : (reservedRules.all fun rule => reservedRules.all fun other => rule == other ||
      (wordsOf rule).all fun word => (wordsOf other).all fun word' =>
        lowered word.toList != lowered word'.toList) = true := by
    decide +kernel
  simpa only [List.all_eq_true, Bool.or_eq_true, beq_iff_eq, bne_iff_ne] using known

/-- The characters of reserved words may stand in identifiers. -/
theorem letters_of_word : ∀ rule ∈ reservedRules, ∀ word ∈ wordsOf rule,
    ∀ c ∈ lowered word.toList, c.isLower = true ∨ c = '_' := by
  have known : (reservedRules.all fun rule => (wordsOf rule).all fun word =>
      (lowered word.toList).all fun c => c.isLower || c == '_') = true := by
    decide +kernel
  simpa only [List.all_eq_true, Bool.or_eq_true, beq_iff_eq] using known

theorem Pattern.scan_wholeWord {pattern : Pattern} {cs taken left : List Char}
    (found : (wholeWord pattern).scan cs = some (taken, left)) :
    pattern.scan cs = some (taken, left) ∧ identifierPart.scan left = none := by
  change Pattern.scan (.seq pattern (.not identifierPart)) cs = _ at found
  simp only [scan] at found
  split at found
  · cases found
  · next front mid start =>
      split at found
      · next fails =>
          cases found
          rw [List.append_nil]
          exact ⟨start, fails⟩
      · cases found

/-- What a rule for reserved words takes is one of its words, and no character follows that may
stand in an identifier. -/
theorem word_of_scan {rule : Rule} (reserved : rule ∈ reservedRules) {pattern : Pattern}
    (defined : definition rule = .token pattern) {cs taken left : List Char}
    (found : pattern.scan cs = some (taken, left)) :
    (∃ word ∈ wordsOf rule, lowered taken = lowered word.toList) ∧
      Pattern.identifierPart.scan left = none := by
  rw [definition_of_reserved reserved] at defined
  cases defined
  obtain ⟨inner, fails⟩ := Pattern.scan_wholeWord found
  refine ⟨?_, fails⟩
  obtain ⟨pattern, among, takes⟩ := Pattern.takes_firstOf (Pattern.takes_of_scan _ inner)
    (by simpa using wordsOf_ne_nil reserved)
  obtain ⟨word, member, rfl⟩ := List.mem_map.1 among
  exact ⟨word, member, takes⟩

theorem eq_of_toLower_line {c : Char} (line : c.toLower = '_') : c = '_' := by
  rcases toLower_cases c with same | ⟨upper, sum⟩
  · exact same.symm.trans line
  · have range := isUpper_iff.1 upper
    rw [line, show '_'.toNat = 95 from rfl] at sum
    omega

theorem isIdentifierPart_of_letter {c : Char} (letter : c.toLower.isLower = true ∨ c.toLower = '_')
    (cs : List Char) : Pattern.identifierPart.scan (c :: cs) ≠ none := by
  have part : Text.isIdentifierContinue c = true := by
    rcases letter with lower | line
    · exact isIdentifierContinue_of_isIdentifierStart
        (isIdentifierStart_of_isAlpha (isAlpha_of_toLower lower))
    · rw [eq_of_toLower_line line]
      rfl
  change Pattern.scan (.alt (.one .identifierContinue) _) (c :: cs) ≠ none
  simp [Pattern.scan, CharClass.contains, part]

theorem scan_of_reserved {rule other : Rule} (reserved : rule ∈ reservedRules)
    (reserved' : other ∈ reservedRules) (differ : rule ≠ other) {pattern pattern' : Pattern}
    (defined : definition rule = .token pattern) (defined' : definition other = .token pattern')
    {text : List Char} (whole : pattern'.scan text = some (text, [])) :
    pattern.scan text = none := by
  cases found : pattern.scan text with
  | none => rfl
  | some pair =>
      obtain ⟨taken, left⟩ := pair
      obtain ⟨⟨word, among, same⟩, stops⟩ := word_of_scan reserved defined found
      obtain ⟨⟨word', among', same'⟩, _⟩ := word_of_scan reserved' defined' whole
      have parts := pattern.eq_append_of_scan found
      cases left with
      | nil =>
          rw [List.append_nil] at parts
          rw [← parts, same'] at same
          exact absurd same.symm ((rule_of_word rule reserved other reserved').resolve_left differ
            word among word' among')
      | cons c left =>
          have inside : c.toLower ∈ lowered word'.toList := by
            rw [← same', parts]
            exact List.mem_map_of_mem (List.mem_append_right _ (List.mem_cons_self ..))
          exact absurd stops (isIdentifierPart_of_letter
            (letters_of_word other reserved' word' among' _ inside) left)

/-! ## Identifiers -/

theorem Pattern.scan_firstOf {patterns : List Pattern} {cs : List Char}
    (fails : (firstOf patterns).scan cs = none) {pattern : Pattern} (among : pattern ∈ patterns) :
    pattern.scan cs = none := by
  induction patterns with
  | nil => cases among
  | cons first patterns ih =>
      cases patterns with
      | nil =>
          rw [List.mem_singleton.1 among]
          exact fails
      | cons next others =>
          change Pattern.scan (.alt first (firstOf (next :: others))) cs = none at fails
          simp only [scan] at fails
          split at fails
          · next one =>
              rcases List.mem_cons.1 among with rfl | later
              · exact one
              · exact ih fails later
          · cases fails

/-- Every reserved word is excluded from being an identifier. -/
theorem anyKeyword_eq :
    Pattern.anyKeyword = .firstOf (reservedRules.map fun rule =>
      .wholeWord (.firstOf ((wordsOf rule).map .caseless))) := by
  rfl

theorem scan_of_anyKeyword {cs : List Char} (fails : Pattern.anyKeyword.scan cs = none)
    {rule : Rule} (reserved : rule ∈ reservedRules) {pattern : Pattern}
    (defined : definition rule = .token pattern) : pattern.scan cs = none := by
  rw [definition_of_reserved reserved] at defined
  cases defined
  rw [anyKeyword_eq] at fails
  exact Pattern.scan_firstOf fails (List.mem_map_of_mem reserved)

theorem scan_bareIdentifier {cs : List Char} {found : List Char × List Char}
    (scanned : Pattern.bareIdentifier.scan cs = some found) :
    Pattern.anyKeyword.scan cs = none := by
  change Pattern.scan (.seq (.seq (.not .anyKeyword) .identifierStart) (.many .identifierPart)) cs
    = _ at scanned
  cases word : Pattern.anyKeyword.scan cs with
  | none => rfl
  | some pair => simp [Pattern.scan, word] at scanned

theorem identifier_of_reserved {rule : Rule} (reserved : rule ∈ reservedRules) {pattern : Pattern}
    (defined : definition rule = .token pattern) {text left : List Char} (visible : text ≠ [])
    (whole : pattern.scan text = some (text, [])) (ended : Ended left) :
    (Pattern.quotedIdentifier <|> Pattern.bareIdentifier).scan (text ++ left) = none := by
  have kept := scan_of_token defined visible whole ended
  have known : rule ≠ .endOfInput := fun ending => unquoted_of_reserved reserved (by simp [ending])
  obtain ⟨c, cs, rfl⟩ := List.exists_cons_of_ne_nil visible
  have letter : look c ∈ [Look.letter] := by
    rw [← looksOf_of_reserved reserved]
    exact Pattern.look_of_takes (Pattern.takes_of_scan _ whole) (begins_of_token defined known).1
  change Pattern.scan (.alt .quotedIdentifier .bareIdentifier) _ = _
  simp only [Pattern.scan, List.cons_append, scan_quotedIdentifier_of_look letter]
  cases found : Pattern.bareIdentifier.scan (c :: (cs ++ left)) with
  | none => rfl
  | some pair =>
      rw [List.cons_append, scan_of_anyKeyword (scan_bareIdentifier found) reserved defined] at kept
      cases kept

theorem reserved_of_identifier {rule : Rule} (reserved : rule ∈ reservedRules) {pattern : Pattern}
    (defined : definition rule = .token pattern) {text left : List Char} (visible : text ≠ [])
    (whole : (Pattern.quotedIdentifier <|> Pattern.bareIdentifier).scan text = some (text, []))
    (ended : Ended left) : pattern.scan (text ++ left) = none := by
  have known := unquoted_of_reserved reserved
  rw [Pattern.scan_append (shuns_of_token defined known) ended]
  change Pattern.scan (.alt .quotedIdentifier .bareIdentifier) _ = _ at whole
  simp only [Pattern.scan] at whole
  cases quoted : Pattern.quotedIdentifier.scan text with
  | none =>
      rw [quoted] at whole
      rw [scan_of_anyKeyword (scan_bareIdentifier whole) reserved defined]
      rfl
  | some found =>
      rw [quoted] at whole
      cases whole
      obtain ⟨c, cs, rfl⟩ := List.exists_cons_of_ne_nil visible
      have quotation : look c ∈ [Look.quotation] :=
        Pattern.look_of_takes (Pattern.takes_of_scan _ quoted) rfl
      have begins := begins_of_token defined fun ending => known (by simp [ending])
      rw [Pattern.scan_of_look begins.1 begins.2]
      · rfl
      · rw [looksOf_of_reserved reserved, List.mem_singleton.1 quotation]
        decide

/-! ## Points in time between quotation marks -/

theorem timestamp_of_date {text : List Char}
    (whole : (Pattern.literal "'" ++ Pattern.fullDate ++ Pattern.literal "'").scan text
      = some (text, [])) :
    (Pattern.literal "'" ++ Pattern.fullDate ++ Pattern.caseless "t" ++ Pattern.utcTime
      ++ Pattern.literal "'").scan text = none := by
  change Pattern.scan (.seq (.literal "'" ++ .fullDate) (.literal "'")) _ = _ at whole
  change Pattern.scan (.seq (.seq (.seq (.literal "'" ++ .fullDate) (.caseless "t")) .utcTime)
    (.literal "'")) _ = _
  simp only [Pattern.scan] at whole ⊢
  cases front : (Pattern.literal "'" ++ Pattern.fullDate).scan text with
  | none => rfl
  | some pair =>
      obtain ⟨taken, left⟩ := pair
      rw [front] at whole
      cases left with
      | nil => cases whole
      | cons c cs =>
          obtain ⟨rest, closed, _⟩ := Option.map_eq_some_iff.1 whole
          by_cases mark : c = '\''
          · subst mark
            rfl
          · simp [takeWord, Ne.symm mark] at closed

/-! ## Telling kinds apart -/

/-- Whether tokens of the other rule are refused by the rule, for rules whose tokens may begin with
the same character. -/
def refusesRule (rule other : Rule) : Bool :=
  match rule, other with
  | .identifier, _ => isReserved other
  | .timestampString, .dateString | .timestampString, .dotDotString
  | .dateString, .dotDotString => true
  | _, .identifier => isReserved rule
  | _, _ => isReserved rule && isReserved other && rule != other

theorem scan_of_refusesRule {rule other : Rule} (refuses : refusesRule rule other = true)
    {pattern pattern' : Pattern} (defined : definition rule = .token pattern)
    (defined' : definition other = .token pattern') {text left : List Char} (visible : text ≠ [])
    (whole : pattern'.scan text = some (text, [])) (ended : Ended left) :
    pattern.scan (text ++ left) = none := by
  rw [refusesRule.eq_def] at refuses
  split at refuses
  · cases defined
    exact identifier_of_reserved (mem_reservedRules refuses) defined' visible whole ended
  · rw [Pattern.scan_append (shuns_of_token defined (by decide)) ended]
    cases defined
    cases defined'
    rw [timestamp_of_date whole]
    rfl
  · rw [Pattern.scan_append (shuns_of_token defined (by decide)) ended]
    cases defined
    cases defined'
    rw [show text = "'..'".toList from Pattern.takes_of_scan _ whole]
    rfl
  · rw [Pattern.scan_append (shuns_of_token defined (by decide)) ended]
    cases defined
    cases defined'
    rw [show text = "'..'".toList from Pattern.takes_of_scan _ whole]
    rfl
  · cases defined'
    exact reserved_of_identifier (mem_reservedRules refuses) defined visible whole ended
  · simp only [Bool.and_eq_true, bne_iff_ne, ne_eq] at refuses
    have reserved := mem_reservedRules refuses.1.1
    have reserved' := mem_reservedRules refuses.1.2
    rw [Pattern.scan_append (shuns_of_token defined (unquoted_of_reserved reserved)) ended,
      scan_of_reserved reserved reserved' refuses.2 defined defined' whole]
    rfl

namespace Terminal

def looks : Terminal → List Look
  | .symbol mark => [look mark]
  | .token rule => looksOf rule

def isApart (one other : Terminal) : Bool :=
  (one.looks.all fun look => !other.looks.contains look) ||
    match one, other with
    | .token rule, .token rule' => refusesRule rule rule'
    | _, _ => false

def Reads : Terminal → List Char → Prop
  | .symbol mark, text => text = [mark]
  | .token rule, text =>
      text ≠ [] ∧ ∃ pattern, definition rule = .token pattern ∧ pattern.scan text = some (text, [])

def Refuses : Terminal → List Char → Prop
  | .symbol mark, cs => ∀ rest, cs ≠ mark :: rest
  | .token rule, cs => ∀ pattern, definition rule = .token pattern → pattern.scan cs = none

/-- A token has a first character, and it looks as its kind says. -/
theorem Reads.look {terminal : Terminal} {text : List Char} (reads : terminal.Reads text) :
    ∃ c cs, text = c :: cs ∧ Grammar.look c ∈ terminal.looks := by
  cases terminal with
  | symbol mark => exact ⟨mark, [], reads, List.mem_singleton_self _⟩
  | token rule =>
      obtain ⟨visible, pattern, defined, whole⟩ := reads
      obtain ⟨c, cs, rfl⟩ := List.exists_cons_of_ne_nil visible
      refine ⟨c, cs, rfl, ?_⟩
      have takes := Pattern.takes_of_scan _ whole
      refine Pattern.look_of_takes takes (begins_of_token defined ?_).1
      rintro rfl
      cases defined
      cases takes

/-- A kind refuses a text whose first character does not look right. -/
theorem refuses_of_look {terminal : Terminal} {c : Char} {cs : List Char}
    (other : Grammar.look c ∉ terminal.looks) : terminal.Refuses (c :: cs) := by
  cases terminal with
  | symbol mark =>
      rintro rest same
      cases same
      exact other (List.mem_singleton_self _)
  | token rule =>
      intro pattern defined
      by_cases ending : rule = .endOfInput
      · subst ending
        cases defined
        rfl
      · obtain ⟨begins, visible⟩ := begins_of_token defined ending
        exact Pattern.scan_of_look begins visible other

theorem refuses_of_isApart {one other : Terminal} (apart : one.isApart other = true)
    {text left : List Char} (reads : other.Reads text) (ended : Ended left) :
    one.Refuses (text ++ left) := by
  rcases Bool.or_eq_true_iff.1 apart with differ | refuses
  · obtain ⟨c, cs, rfl, looks⟩ := reads.look
    refine refuses_of_look fun same => ?_
    have differs := List.all_eq_true.1 differ _ same
    rw [List.contains_iff_mem.2 looks] at differs
    cases differs
  · cases one with
    | symbol mark => cases refuses
    | token rule =>
        cases other with
        | symbol mark => cases refuses
        | token rule' =>
            intro pattern defined
            obtain ⟨visible, pattern', defined', whole⟩ := reads
            exact scan_of_refusesRule refuses defined defined' visible whole ended

end Terminal

end Cql.Grammar
