import Cql.Text.Caseless
import Cql.Text.IdentifierContinue

/-!
# Lexical patterns

A pattern describes a token as a text of adjacent characters. Matching is greedy and ordered: an
alternative that matched is never revisited, and a repetition takes as many rounds as it can.
-/

namespace Cql.Grammar

inductive CharClass where
  | any
  | digit
  | identifierStart
  | identifierContinue
  deriving DecidableEq, Repr

def CharClass.contains : CharClass → Char → Bool
  | .any, _ => true
  | .digit, c => c.isDigit
  | .identifierStart, c => Text.isIdentifierStart c
  | .identifierContinue, c => Text.isIdentifierContinue c

inductive Pattern where
  /-- The given characters. -/
  | literal (word : String)
  /-- The given characters up to the case of ASCII letters. -/
  | caseless (word : String)
  /-- One character of a class. -/
  | one (cls : CharClass)
  /-- The first pattern and then the second. -/
  | seq (first second : Pattern)
  /-- The first pattern or, where it fails, the second. -/
  | alt (first second : Pattern)
  /-- The pattern or nothing. -/
  | opt (inner : Pattern)
  /-- The pattern as often as it matches. -/
  | many (inner : Pattern)
  /-- Nothing, and only where the pattern fails. -/
  | not (inner : Pattern)
  deriving DecidableEq, Repr

/-- Takes the characters of `word` off a text, comparing them by `same`. Returns what was taken and
what is left. -/
def takeWord (same : Char → Char → Bool) : List Char → List Char → Option (List Char × List Char)
  | [], cs => some ([], cs)
  | _ :: _, [] => none
  | w :: ws, c :: cs =>
      if same w c then (takeWord same ws cs).map fun found => (c :: found.1, found.2) else none

/-- Nothing is lost when a word is taken. -/
theorem eq_append_of_takeWord {same : Char → Char → Bool} {word cs taken left : List Char}
    (found : takeWord same word cs = some (taken, left)) : cs = taken ++ left := by
  induction word generalizing cs taken with
  | nil => simp_all [takeWord]
  | cons w ws ih =>
      cases cs with
      | nil => simp [takeWord] at found
      | cons c cs =>
          simp only [takeWord] at found
          split at found
          · obtain ⟨rest, inner, pair⟩ := Option.map_eq_some_iff.1 found
            cases pair
            simp [ih inner]
          · cases found

/-- Applies a scanner until it fails, at most once for every element of `rounds`. -/
def scanRounds (scan : List Char → Option (List Char × List Char)) :
    List Char → List Char → List Char × List Char
  | [], cs => ([], cs)
  | _ :: rounds, cs =>
      match scan cs with
      | none => ([], cs)
      | some (taken, left) =>
          let more := scanRounds scan rounds left
          (taken ++ more.1, more.2)

/-- Nothing is lost by scanning in rounds, when nothing is lost in each of them. -/
theorem scanRounds_append {scan : List Char → Option (List Char × List Char)}
    (keeps : ∀ cs taken left, scan cs = some (taken, left) → cs = taken ++ left)
    (rounds cs : List Char) :
    (scanRounds scan rounds cs).1 ++ (scanRounds scan rounds cs).2 = cs := by
  induction rounds generalizing cs with
  | nil => rfl
  | cons _ rounds ih =>
      simp only [scanRounds]
      split
      · rfl
      · next taken left found =>
          rw [keeps cs taken left found, List.append_assoc, ih left]

namespace Pattern

instance : Append Pattern := ⟨.seq⟩

instance : OrElse Pattern := ⟨fun first second => .alt first (second ())⟩

def many1 (inner : Pattern) : Pattern :=
  inner ++ many inner

def times (inner : Pattern) : Nat → Pattern
  | 0 => inner
  | 1 => inner
  | n + 2 => inner ++ times inner (n + 1)

def never : Pattern :=
  .not (.literal "")

def firstOf : List Pattern → Pattern
  | [] => never
  | [pattern] => pattern
  | pattern :: next :: others => pattern <|> firstOf (next :: others)

/-- Matches a pattern at the front of a text. Returns what it took and what is left; `none` when
it does not match. A repetition cannot take more rounds than there are characters. -/
def scan : Pattern → List Char → Option (List Char × List Char)
  | .literal word, cs => takeWord (· == ·) word.toList cs
  | .caseless word, cs => takeWord Text.sameLetter word.toList cs
  | .one _, [] => none
  | .one cls, c :: cs => if cls.contains c then some ([c], cs) else none
  | .seq first second, cs =>
      match scan first cs with
      | none => none
      | some (taken, left) =>
          (scan second left).map fun found => (taken ++ found.1, found.2)
  | .alt first second, cs =>
      match scan first cs with
      | none => scan second cs
      | some found => some found
  | .opt inner, cs =>
      match scan inner cs with
      | none => some ([], cs)
      | some found => some found
  | .many inner, cs => some (scanRounds (scan inner) cs cs)
  | .not inner, cs =>
      match scan inner cs with
      | none => some ([], cs)
      | some _ => none

/-- Nothing is lost when a pattern matches. -/
theorem eq_append_of_scan (pattern : Pattern) {cs taken left : List Char}
    (found : pattern.scan cs = some (taken, left)) : cs = taken ++ left := by
  induction pattern generalizing cs taken left with
  | literal word => exact eq_append_of_takeWord found
  | caseless word => exact eq_append_of_takeWord found
  | one cls =>
      cases cs with
      | nil => simp [scan] at found
      | cons c cs =>
          simp only [scan] at found
          split at found
          · cases found; rfl
          · cases found
  | seq first second ihFirst ihSecond =>
      simp only [scan] at found
      split at found
      · cases found
      · next firstFound =>
          obtain ⟨rest, inner, pair⟩ := Option.map_eq_some_iff.1 found
          cases pair
          rw [ihFirst firstFound, ihSecond inner, List.append_assoc]
  | alt first second ihFirst ihSecond =>
      simp only [scan] at found
      split at found
      · exact ihSecond found
      · next firstFound => cases found; exact ihFirst firstFound
  | opt inner ih =>
      simp only [scan] at found
      split at found
      · cases found; rfl
      · next innerFound => cases found; exact ih innerFound
  | many inner ih =>
      simp only [scan, Option.some.injEq] at found
      have whole := scanRounds_append (fun _ _ _ => ih) cs cs
      rw [found] at whole
      exact whole.symm
  | not inner _ =>
      simp only [scan] at found
      split at found
      · cases found; rfl
      · cases found

end Pattern

end Cql.Grammar
