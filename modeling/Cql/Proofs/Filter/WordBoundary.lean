import Cql.Proofs.Filter.ErrorReport
import Cql.Proofs.Grammar.LetterCase
import Cql.Proofs.Grammar.TokenCut
import Cql.Proofs.Grammar.TokenNesting

/-!
# Connectives and the boundaries of words

After an error the next connective is found by a pass over the characters that knows nothing of the
grammar. It stops at the first `AND` or `OR` outside quotes that is no part of a longer word. What
makes a longer word is decided by letters, digits and three marks there, and by the characters of an
identifier in the grammar. The latter are more: a combining mark or a middle dot continues an
identifier and is neither a letter nor a digit. Where one of them touches the word, the pass takes
the piece of an identifier for a connective; everywhere else it finds what the grammar does.
-/

namespace Cql.Filter

open Cql.Text Cql.Grammar

/-! ## Outside quotes -/

/-- The text ends outside quotes: it falls into characters that are no quotation marks and sections
between two equal marks. -/
inductive Unquoted : List Char → Prop where
  | nil : Unquoted []
  | plain {c : Char} {cs : List Char} (plain : c ∉ ['\'', '"']) (more : Unquoted cs) :
      Unquoted (c :: cs)
  | quoted {mark : Char} {body cs : List Char} (marks : mark ∈ ['\'', '"']) (inside : mark ∉ body)
      (more : Unquoted cs) : Unquoted (mark :: (body ++ mark :: cs))

theorem step_quote_of_plain {c : Char} (plain : c ∉ ['\'', '"']) (depth : Nat) :
    (Nesting.step ⟨none, depth⟩ c).quote = none := by
  simp only [List.mem_cons, List.not_mem_nil, or_false, not_or] at plain
  simp only [Nesting.step, beq_false_of_ne plain.1, beq_false_of_ne plain.2, Bool.or_self,
    Bool.false_eq_true, if_false]
  split
  · rfl
  · split <;> rfl

/-- Behind a text that ends outside quotes no quotation is open. -/
theorem Unquoted.foldl_step {text : List Char} (unquoted : Unquoted text) (depth : Nat) :
    (text.foldl Nesting.step ⟨none, depth⟩).quote = none := by
  induction unquoted generalizing depth with
  | nil => rfl
  | @plain c cs plain _ ih =>
      have outside := step_quote_of_plain plain depth
      rw [List.foldl_cons]
      generalize Nesting.step ⟨none, depth⟩ c = next at outside ⊢
      obtain ⟨quote, depth⟩ := next
      obtain rfl : quote = none := outside
      exact ih depth
  | @quoted mark body cs marks inside _ ih =>
      have stays : Passes (some mark) body (some mark) :=
        .of_forall fun c among => .inside fun same => inside (same ▸ among)
      have passes := (Passes.opening marks).append (stays.append (Passes.closing mark))
      have whole : mark :: (body ++ mark :: cs) = [mark] ++ (body ++ [mark]) ++ cs := by simp
      rw [whole, List.foldl_append, passes.foldl_eq]
      exact ih depth

/-- A text behind which no quotation is open ends outside quotes. If one is open in front of it, it
is closed in the text first. -/
theorem unquoted_of_foldl {text : List Char} {quote : Option Char} {depth : Nat}
    (closed : (text.foldl Nesting.step ⟨quote, depth⟩).quote = none) :
    (quote = none → Unquoted text) ∧
      ∀ mark, quote = some mark →
        ∃ body rest, text = body ++ mark :: rest ∧ mark ∉ body ∧ Unquoted rest := by
  induction text generalizing quote depth with
  | nil =>
      refine ⟨fun _ => .nil, fun mark opened => ?_⟩
      rw [opened] at closed
      cases closed
  | cons c cs ih =>
      rw [List.foldl_cons] at closed
      refine ⟨?_, ?_⟩
      · rintro rfl
        by_cases marks : c ∈ ['\'', '"']
        · obtain ⟨_, opens, rfl⟩ := Passes.opening marks
          rw [opens] at closed
          obtain ⟨body, rest, rfl, inside, more⟩ := (ih closed).2 c rfl
          exact .quoted marks inside more
        · have outside := step_quote_of_plain marks depth
          exact .plain marks ((ih closed).1 outside)
      · rintro mark rfl
        by_cases same : c = mark
        · subst same
          obtain ⟨_, closes, rfl⟩ := Passes.closing c
          rw [closes] at closed
          exact ⟨[], cs, rfl, List.not_mem_nil, (ih closed).1 rfl⟩
        · obtain ⟨_, stays, rfl⟩ := Passes.inside same
          rw [stays] at closed
          obtain ⟨body, rest, rfl, inside, more⟩ := (ih closed).2 mark rfl
          refine ⟨c :: body, rest, rfl, ?_, more⟩
          rw [List.mem_cons, not_or]
          exact ⟨fun equal => same equal.symm, inside⟩

/-! ## The connectives that are looked for -/

/-- A connective stands in the text behind `before`, at byte `start` or later: one of the two words
outside quotes, with no letter, digit or mark of a word on either side. -/
structure Joins (text : List Char) (start : Nat) (before word rest : List Char) : Prop where
  whole : text = before ++ (word ++ rest)
  late : start ≤ byteSize before
  unquoted : Unquoted before
  letters : lowered word ∈ ["and".toList, "or".toList]
  front : ∀ c ∈ before.getLast?, isWordPart c = false
  back : ∀ c ∈ rest.head?, isWordPart c = false

variable {text before word rest : List Char} {start : Nat}

theorem byteSize_of_letters (letters : lowered word ∈ ["and".toList, "or".toList]) :
    2 ≤ byteSize word ∧ byteSize word ≤ 3 := by
  simp only [List.mem_cons, List.not_mem_nil, or_false] at letters
  rcases letters with conjoins | disjoins
  · rw [@byteSize_of_toLower "and".toList word conjoins]
    decide
  · rw [@byteSize_of_toLower "or".toList word disjoins]
    decide

theorem takeWord_of_lowered {named : List Char} (letters : lowered word = lowered named)
    (rest : List Char) : takeWord sameLetter named (word ++ rest) = some (word, rest) := by
  induction named generalizing word with
  | nil =>
      rw [List.map_eq_nil_iff.1 letters]
      rfl
  | cons w named ih =>
      obtain ⟨c, cs, rfl, letter, others⟩ := lowered_cons letters.symm
      have same : sameLetter w c = true := beq_iff_eq.2 letter
      rw [List.cons_append, takeWord, if_pos same, ih others.symm]
      rfl

theorem afterWord?_of_lowered {named : String} (letters : lowered word = lowered named.toList)
    (apart : ∀ c ∈ rest.head?, isWordPart c = false) :
    afterWord? named (word ++ rest) = some rest := by
  have ends : rest.head?.any isWordPart = false := by
    cases head : rest.head? with
    | none => rfl
    | some c => exact apart c head
  rw [afterWord?, takeWord_of_lowered letters]
  simp only [ends, Bool.false_eq_true, if_false]

theorem head_of_afterWord? {named : String} {cs : List Char}
    (found : afterWord? named cs = some rest) : ∀ c ∈ rest.head?, isWordPart c = false := by
  unfold afterWord? at found
  split at found
  · split at found
    · cases found
    · next taken left _ apart =>
        cases found
        intro c head
        rw [head] at apart
        exact Bool.eq_false_iff.2 apart
  · cases found

/-- A connective at the front of a text is one of the two words, and no word goes on behind it. -/
theorem connective?_iff {size : Nat} {cs : List Char} :
    connective? cs = some (size, rest) ↔ ∃ word, cs = word ++ rest ∧ size = byteSize word ∧
      lowered word ∈ ["and".toList, "or".toList] ∧ ∀ c ∈ rest.head?, isWordPart c = false := by
  constructor
  · intro found
    obtain ⟨word, whole, bytes, _, letters⟩ := eq_append_of_connective? found
    refine ⟨word, whole, bytes, letters, ?_⟩
    unfold connective? at found
    split at found
    · next conjoins =>
        cases found
        exact head_of_afterWord? conjoins
    · obtain ⟨left, disjoins, pair⟩ := Option.map_eq_some_iff.1 found
      cases pair
      exact head_of_afterWord? disjoins
  · rintro ⟨word, rfl, rfl, letters, apart⟩
    simp only [List.mem_cons, List.not_mem_nil, or_false] at letters
    rcases letters with conjoins | disjoins
    · have letters : lowered word = lowered "and".toList := conjoins
      rw [connective?, afterWord?_of_lowered letters apart, byteSize_of_toLower letters]
      rfl
    · have letters : lowered word = lowered "or".toList := disjoins
      have other : afterWord? "and" (word ++ rest) = none := by
        refine Option.eq_none_iff_forall_ne_some.2 fun left found => ?_
        obtain ⟨taken, whole, letters'⟩ := eq_append_of_afterWord? found
        obtain ⟨c, cs, rfl, letter, _⟩ :=
          lowered_cons (show lowered ['o', 'r'] = _ from disjoins.symm)
        obtain ⟨d, ds, rfl, letter', _⟩ :=
          lowered_cons (show lowered ['a', 'n', 'd'] = _ from letters'.symm)
        rw [(List.cons.inj whole).1, ← letter'] at letter
        exact absurd letter (by decide)
      rw [connective?, other, afterWord?_of_lowered letters apart, byteSize_of_toLower letters]
      rfl

/-- Without an open quotation a connective that begins late enough is found. Nothing is found that
ends behind it. -/
theorem resumptionFrom_of_connective {offset : Nat} {nesting : Nesting} {previous : Option Char}
    (late : start ≤ offset + byteSize before)
    (unquoted : (before.foldl Nesting.step nesting).quote = none)
    (letters : lowered word ∈ ["and".toList, "or".toList])
    (front : (before.getLast?.or previous).any isWordPart = false)
    (back : ∀ c ∈ rest.head?, isWordPart c = false) :
    ∃ place, resumptionFrom start nesting previous offset (before ++ (word ++ rest)) = some place ∧
      place.offset ≤ offset + byteSize before + byteSize word := by
  have connects : connective? (word ++ rest) = some (byteSize word, rest) :=
    connective?_iff.2 ⟨word, rfl, rfl, letters, back⟩
  have size := (byteSize_of_letters letters).1
  induction before generalizing offset nesting previous with
  | nil =>
      have visible : word ≠ [] := by
        rintro rfl
        cases size
      obtain ⟨c, cs, rfl⟩ := List.exists_cons_of_ne_nil visible
      rw [List.cons_append] at connects
      rw [List.nil_append, List.cons_append]
      rcases resumptionFrom_cons with ⟨size', rest', _, _, _, here, stops⟩ | ⟨absent, _⟩
      · cases connects.symm.trans here
        exact ⟨_, stops, Nat.le_refl _⟩
      · cases connects.symm.trans (absent unquoted late front)
  | cons c before ih =>
      rw [List.cons_append]
      rw [byteSize_cons] at late ⊢
      have wide := c.utf8Size_pos
      rcases resumptionFrom_cons with ⟨size', rest', _, _, _, here, stops⟩ | ⟨_, goesOn⟩
      · refine ⟨_, stops, ?_⟩
        obtain ⟨_, _, rfl, letters', _⟩ := connective?_iff.1 here
        have short := (byteSize_of_letters letters').2
        change offset + byteSize _ ≤ _
        omega
      · have front' : (before.getLast?.or (some c)).any isWordPart = false := by
          cases before with
          | nil => exact front
          | cons d before => rwa [List.getLast?_cons_cons] at front
        have late' : start ≤ offset + c.utf8Size + byteSize before := by omega
        obtain ⟨place, found, bound⟩ := ih late' unquoted front'
        exact ⟨place, goesOn.trans found, by omega⟩

theorem resumption_of_joins (joins : Joins text start before word rest) :
    ∃ place, resumption text start = some place ∧
      place.offset ≤ byteSize before + byteSize word := by
  have front : (before.getLast?.or none).any isWordPart = false := by
    rw [Option.or_none]
    cases last : before.getLast? with
    | none => rfl
    | some c => exact joins.front c last
  have late : start ≤ 0 + byteSize before := by
    rw [Nat.zero_add]
    exact joins.late
  obtain ⟨place, found, bound⟩ := resumptionFrom_of_connective late
    (joins.unquoted.foldl_step 0) joins.letters front joins.back
  rw [joins.whole]
  exact ⟨place, found, by omega⟩

/-- The reading resumes behind a connective. -/
theorem joins_of_resumption {place : Resumption} (found : resumption text start = some place) :
    ∃ before word, Joins text start before word place.rest ∧
      place.offset = byteSize before + byteSize word := by
  obtain ⟨before, word, whole, late, connects, there, nested, apart⟩ :=
    cases_of_resumptionFrom found
  rw [Nat.zero_add] at late there
  rw [Option.or_none] at apart
  obtain ⟨_, same, _, letters, back⟩ := connective?_iff.1 connects
  rw [← List.append_cancel_right same] at letters
  have closed : (before.foldl Nesting.step {}).quote = none := by rw [nested]
  refine ⟨before, word, ⟨whole, late, (unquoted_of_foldl closed).1 rfl, letters, ?_, back⟩, there⟩
  intro c last
  rw [last] at apart
  exact apart

/-! ## The connectives of the grammar -/

/-- Whether the character continues an identifier of the grammar, but is not taken for a part of a
word where a connective is looked for. -/
def isUnseenPart (c : Char) : Bool :=
  isIdentifierContinue c && !isAlphanumeric c && c != '_'

theorem isIdentifierPart_of_apart {c : Char} (apart : isWordPart c = false) :
    isIdentifierPart c = isUnseenPart c := by
  simp only [isWordPart, Bool.or_eq_false_iff] at apart
  obtain ⟨⟨⟨letter, line⟩, dot⟩, colon⟩ := apart
  simp [isIdentifierPart, isUnseenPart, letter, line, dot, colon, bne]

/-- The rule of the grammar for the keyword takes the word that stands between the two texts, and no
identifier goes on in front of it. -/
structure StandsAsKeyword (keyword : Keyword) (before word rest : List Char) : Prop where
  taken : (Pattern.keyword keyword).scan (word ++ rest) = some (word, rest)
  apart : ∀ c ∈ before.getLast?, isIdentifierPart c = false

/-- The rule for a keyword takes its letters in any case where no identifier goes on. -/
theorem scan_keyword_iff {keyword : Keyword}
    (letters : lowered word = lowered keyword.word.toList) :
    (Pattern.keyword keyword).scan (word ++ rest) = some (word, rest) ↔
      ∀ c ∈ rest.head?, isIdentifierPart c = false := by
  have ends : Pattern.identifierPart.scan rest = none ↔
      ∀ c ∈ rest.head?, isIdentifierPart c = false := by
    cases rest with
    | nil => exact iff_of_true rfl fun c head => by cases head
    | cons c cs =>
        rw [scan_identifierPart]
        constructor
        · intro ends d head
          cases head
          refine Bool.eq_false_iff.2 fun part => ?_
          rw [if_pos part] at ends
          cases ends
        · intro apart
          rw [if_neg (Bool.eq_false_iff.1 (apart c rfl))]
  rw [← ends]
  constructor
  · intro found
    exact (Pattern.scan_wholeWord found).2
  · intro stops
    exact Pattern.scan_wholeWord_of_scan (takeWord_of_lowered letters rest) stops

theorem Joins.standsAsKeyword_iff {keyword : Keyword} (joins : Joins text start before word rest)
    (letters : lowered word = lowered keyword.word.toList) :
    StandsAsKeyword keyword before word rest ↔
      ∀ c, c ∈ before.getLast? ∨ c ∈ rest.head? → isUnseenPart c = false := by
  constructor
  · rintro ⟨taken, apart⟩ c (last | head)
    · rw [← isIdentifierPart_of_apart (joins.front c last)]
      exact apart c last
    · rw [← isIdentifierPart_of_apart (joins.back c head)]
      exact (scan_keyword_iff letters).1 taken c head
  · intro seen
    refine ⟨(scan_keyword_iff letters).2 fun c head => ?_, fun c last => ?_⟩
    · rw [isIdentifierPart_of_apart (joins.back c head)]
      exact seen c (.inr head)
    · rw [isIdentifierPart_of_apart (joins.front c last)]
      exact seen c (.inl last)

/-- The reading resumes behind the first connective that begins at the given byte or later, outside
quotes and with no letter, digit or mark of a word on either side, and does not resume if there is
none. The connective is one of the grammar, with no identifier going on in front of it or behind it,
exactly if neither neighbour is a character that continues an identifier without being a letter or a
digit. -/
theorem resumption_at_word_boundary (text : List Char) (start : Nat) :
    (resumption text start = none ↔ ∀ before word rest, ¬ Joins text start before word rest) ∧
    ∀ place, resumption text start = some place →
      (∀ before word rest, Joins text start before word rest →
        place.offset ≤ byteSize before + byteSize word) ∧
      ∃ before word keyword, Joins text start before word place.rest ∧
        place.offset = byteSize before + byteSize word ∧
        keyword ∈ [Keyword.and, .or] ∧ lowered word = keyword.word.toList ∧
        (StandsAsKeyword keyword before word place.rest ↔
          ∀ c, c ∈ before.getLast? ∨ c ∈ place.rest.head? → isUnseenPart c = false) := by
  refine ⟨⟨fun missed before word rest joins => ?_, fun missed => ?_⟩, fun place found => ⟨?_, ?_⟩⟩
  · obtain ⟨place, found, _⟩ := resumption_of_joins joins
    cases missed.symm.trans found
  · refine Option.eq_none_iff_forall_ne_some.2 fun place found => ?_
    obtain ⟨before, word, joins, _⟩ := joins_of_resumption found
    exact missed before word place.rest joins
  · intro before word rest joins
    obtain ⟨other, same, bound⟩ := resumption_of_joins joins
    cases found.symm.trans same
    exact bound
  · obtain ⟨before, word, joins, there⟩ := joins_of_resumption found
    have named : ∃ keyword ∈ [Keyword.and, .or], lowered word = keyword.word.toList := by
      have letters := joins.letters
      simp only [List.mem_cons, List.not_mem_nil, or_false] at letters
      rcases letters with conjoins | disjoins
      · exact ⟨.and, by decide, conjoins⟩
      · exact ⟨.or, by decide, disjoins⟩
    obtain ⟨keyword, among, letters⟩ := named
    refine ⟨before, word, keyword, joins, there, among, letters, joins.standsAsKeyword_iff ?_⟩
    rw [letters]
    simp only [List.mem_cons, List.not_mem_nil, or_false] at among
    rcases among with rfl | rfl <;> rfl

/-- The pass stops inside the identifier `and·`, which the grammar does not take for a
connective. -/
theorem resumption_inside_identifier :
    resumption "a ! and· = 2".toList 2 = some ⟨7, 0, "· = 2".toList⟩ ∧
      Pattern.bareIdentifier.scan "and· = 2".toList = some ("and·".toList, " = 2".toList) ∧
      ∀ keyword ∈ [Keyword.and, .or],
        ¬ StandsAsKeyword keyword "a ! ".toList "and".toList "· = 2".toList := by
  have unknown : ∀ keyword ∈ [Keyword.and, .or],
      (Pattern.keyword keyword).scan "and· = 2".toList = none := by
    decide +kernel
  refine ⟨by decide +kernel, by decide +kernel, fun keyword among stands => ?_⟩
  cases (unknown keyword among).symm.trans stands.taken

end Cql.Filter
