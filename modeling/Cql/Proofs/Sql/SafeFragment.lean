import Cql.Proofs.Sql.Lexeme
import Cql.Sql.Fragment

/-!
# Fragments that can stand anywhere

A fragment is safe when its text is a row of lexemes that closes every quotation and every bracket
it opens, and that has none but allowed identifiers and a few fixed strings in it. Safe fragments
stay safe when they are put together with fixed texts between them, since the characters at the
edges of those texts cannot form anything with their neighbours.
-/

namespace Cql.Sql

namespace Lexeme

/-- The strings that occur in SQL: the present moment, the bounds of a range, and the empty
array. -/
def fixedStrings : List String :=
  ["now", "[]", "\x7b\x7d"]

/-- Whether the lexeme may stand in SQL. No character ends the statement, and of identifiers only
the allowed ones occur. -/
def Admissible (allowed : String → Prop) : Lexeme → Prop
  | .identifier name => allowed name
  | .string content => content ∈ fixedStrings
  | .mark c => isQuote c = false ∧ c ≠ ';'

/-- Lexemes that may stand in SQL side by side. -/
structure Sound (allowed : String → Prop) (lexemes : List Lexeme) : Prop where
  each : ∀ lexeme ∈ lexemes, lexeme.Admissible allowed
  apart : lexemes.IsChain Apart

/-- The characters that mean something else together with their neighbours, or that end a
statement. -/
def special : List Char :=
  ['"', '\'', '-', '/', '*', ';']

/-- Whether the character means the same whatever stands next to it. -/
def isNeutral (c : Char) : Bool :=
  !special.contains c

def isNeutralText (text : String) : Bool :=
  text.toList.all isNeutral

def Neutral (lexeme : Lexeme) : Prop :=
  ∃ c, lexeme = .mark c ∧ isNeutral c = true

theorem isNeutral_iff {c : Char} :
    isNeutral c = true ↔ isQuote c = false ∧ c ≠ '-' ∧ c ≠ '/' ∧ c ≠ '*' ∧ c ≠ ';' := by
  simp [isNeutral, special, isQuote, and_assoc]

theorem Neutral.apart_left {first : Lexeme} (neutral : first.Neutral) (second : Lexeme) :
    Apart first second := by
  obtain ⟨c, rfl, free⟩ := neutral
  have := isNeutral_iff.1 free
  simp_all [Apart, isQuoted]

theorem Neutral.apart_right {second : Lexeme} (neutral : second.Neutral) (first : Lexeme) :
    Apart first second := by
  obtain ⟨c, rfl, free⟩ := neutral
  have := isNeutral_iff.1 free
  simp_all [Apart, isQuoted]

theorem neutral_of_not_mem {cs : List Char} (free : ∀ c ∈ cs, c ∉ special) :
    ∀ lexeme ∈ cs.map Lexeme.mark, lexeme.Neutral := by
  intro lexeme among
  obtain ⟨c, member, rfl⟩ := List.mem_map.1 among
  exact ⟨c, rfl, by simpa [isNeutral] using free c member⟩

theorem neutral_of_mem_marks {text : String} (neutral : isNeutralText text = true)
    {lexeme : Lexeme} (among : lexeme ∈ marks text) : lexeme.Neutral := by
  obtain ⟨c, member, rfl⟩ := List.mem_map.1 among
  exact ⟨c, rfl, List.all_eq_true.1 neutral c member⟩

namespace Sound

variable {allowed : String → Prop} {first second : List Lexeme}

theorem append (one : Sound allowed first) (two : Sound allowed second)
    (edge : ∀ x ∈ first.getLast?, ∀ y ∈ second.head?, Apart x y) :
    Sound allowed (first ++ second) where
  each := by
    intro lexeme among
    rcases List.mem_append.1 among with left | right
    · exact one.each lexeme left
    · exact two.each lexeme right
  apart := one.apart.append two.apart edge

/-- Lexemes may follow one that is neutral. -/
theorem append_of_last (one : Sound allowed first) (two : Sound allowed second)
    (neutral : ∀ x ∈ first.getLast?, x.Neutral) : Sound allowed (first ++ second) :=
  one.append two fun x last y _ => (neutral x last).apart_left y

/-- One that is neutral may follow any lexemes. -/
theorem append_of_head (one : Sound allowed first) (two : Sound allowed second)
    (neutral : ∀ y ∈ second.head?, y.Neutral) : Sound allowed (first ++ second) :=
  one.append two fun x _ y head => (neutral y head).apart_right x

theorem single {lexeme : Lexeme} (admissible : lexeme.Admissible allowed) :
    Sound allowed [lexeme] :=
  ⟨List.forall_mem_singleton.2 admissible, .singleton _⟩

theorem of_neutral (neutral : ∀ lexeme ∈ first, lexeme.Neutral) : Sound allowed first where
  each := by
    intro lexeme among
    obtain ⟨c, rfl, free⟩ := neutral lexeme among
    obtain ⟨quote, _, _, _, stop⟩ := isNeutral_iff.1 free
    exact ⟨quote, stop⟩
  apart := by
    refine List.Pairwise.isChain (List.pairwise_of_forall_mem_list ?_)
    intro x among y _
    exact (neutral x among).apart_left y

theorem marks {text : String} (neutral : isNeutralText text = true) :
    Sound allowed (marks text) :=
  of_neutral fun _ among => neutral_of_mem_marks neutral among

/-- Fixed texts may stand around lexemes. -/
theorem around {before after : String} (sound : Sound allowed first)
    (left : isNeutralText before = true) (right : isNeutralText after = true) :
    Sound allowed (Lexeme.marks before ++ first ++ Lexeme.marks after) := by
  refine append_of_head (append_of_last (marks left) sound ?_) (marks right) ?_
  · intro x last
    exact neutral_of_mem_marks left (List.mem_of_getLast? last)
  · intro y head
    exact neutral_of_mem_marks right (List.mem_of_head? head)

/-- Round brackets may stand around lexemes. -/
theorem grouped (sound : Sound allowed first) :
    Sound allowed (.mark '(' :: first ++ [.mark ')']) :=
  around sound (show isNeutralText "(" = true from rfl) (show isNeutralText ")" = true from rfl)

/-- A fixed text may stand between lexemes. -/
theorem between {text : String} (one : Sound allowed first) (two : Sound allowed second)
    (neutral : isNeutralText text = true) (visible : text.toList ≠ []) :
    Sound allowed (first ++ Lexeme.marks text ++ second) := by
  refine append_of_last (append_of_head one (marks neutral) ?_) two ?_
  · intro y head
    exact neutral_of_mem_marks neutral (List.mem_of_head? head)
  · intro x last
    rw [List.getLast?_append_of_ne_nil _ (by simpa [Lexeme.marks] using visible)] at last
    exact neutral_of_mem_marks neutral (List.mem_of_getLast? last)

theorem plain (sound : Sound allowed first) : ∀ lexeme ∈ first, lexeme.Plain := by
  intro lexeme among
  have admissible := sound.each lexeme among
  cases lexeme with
  | mark c => exact admissible.1
  | identifier name => trivial
  | string content => trivial

/-- Lexemes that may stand in SQL are read back from their text. -/
theorem scan_eq (sound : Sound allowed first) {text : String}
    (written : writeAll first = text.toList) : scan text = some first := by
  rw [scan, ← written]
  exact scanFrom_writeAll sound.plain sound.apart

/-- No two lexemes that may not touch stand side by side. -/
theorem not_infix (sound : Sound allowed first) {x y : Lexeme} (touch : ¬ Apart x y) :
    ¬ [x, y] <:+: first := by
  intro within
  have chain : [x, y].IsChain Apart := List.IsChain.infix sound.apart within
  exact touch (List.isChain_pair.1 chain)

end Sound

end Lexeme

namespace Fragment

open Lexeme

/-- The text of the fragment is a row of lexemes that may stand in SQL, with balanced brackets. -/
inductive Safe (allowed : String → Prop) (sql : Fragment) : Prop where
  | intro (lexemes : List Lexeme) (sound : Sound allowed lexemes) (balanced : Balanced lexemes)
      (written : writeAll lexemes = sql.render.toList)

/-- The fragment is safe and one pair of round brackets is around all of it. -/
inductive Grouped (allowed : String → Prop) (sql : Fragment) : Prop where
  | intro (inner : List Lexeme) (sound : Sound allowed inner) (balanced : Balanced inner)
      (written : writeAll (.mark '(' :: inner ++ [.mark ')']) = sql.render.toList)

/-- Whether a fixed fragment may stand between two others. -/
def isSeparator (sql : Fragment) : Bool :=
  !sql.render.toList.isEmpty && isNeutralText sql.render && nest [] (marks sql.render) == some []

/-- Whether two fixed fragments may stand around another. -/
def isEnclosure (before after : Fragment) : Bool :=
  isNeutralText before.render && isNeutralText after.render &&
    ((nest [] (marks before.render)).bind (nest · (marks after.render))) == some []

variable {allowed : String → Prop} {first second : Fragment}

namespace Safe

theorem nil : Safe allowed [] :=
  ⟨[], .of_neutral (fun _ among => nomatch among), rfl, rfl⟩

/-- A fixed fragment may stand between safe ones. -/
theorem between {middle : Fragment} (one : Safe allowed first) (two : Safe allowed second)
    (separates : isSeparator middle = true) : Safe allowed (first ++ middle ++ second) := by
  obtain ⟨left, soundLeft, balancedLeft, writtenLeft⟩ := one
  obtain ⟨right, soundRight, balancedRight, writtenRight⟩ := two
  simp only [isSeparator, Bool.and_eq_true, Bool.not_eq_true', List.isEmpty_eq_false_iff,
    beq_iff_eq] at separates
  obtain ⟨⟨visible, neutral⟩, level⟩ := separates
  have sound := soundLeft.between soundRight neutral visible
  refine ⟨left ++ marks middle.render ++ right, sound, ?_, ?_⟩
  · exact (balancedLeft.append level).append balancedRight
  · simp [writtenLeft, writtenRight]

/-- A fixed fragment may stand before a safe one. -/
theorem after {before : Fragment} (safe : Safe allowed first)
    (separates : isSeparator before = true) : Safe allowed (before ++ first) :=
  between nil safe separates

/-- A fixed fragment may stand after a safe one. -/
theorem before {after : Fragment} (safe : Safe allowed first)
    (separates : isSeparator after = true) : Safe allowed (first ++ after) := by
  have whole := between safe nil separates
  rwa [List.append_nil] at whole

/-- Fixed fragments may stand around a safe one. -/
theorem enclosed {before after : Fragment} (safe : Safe allowed first)
    (encloses : isEnclosure before after = true) : Safe allowed (before ++ first ++ after) := by
  obtain ⟨lexemes, sound, balanced, written⟩ := safe
  simp only [isEnclosure, Bool.and_eq_true, beq_iff_eq, Option.bind_eq_some_iff] at encloses
  obtain ⟨⟨left, right⟩, opened, opens, closes⟩ := encloses
  refine ⟨marks before.render ++ lexemes ++ marks after.render, sound.around left right,
    balanced.around opens closes, ?_⟩
  simp [written]

/-- Safe fragments with a fixed text between each two of them are safe. -/
theorem joined {separator : String} {fragments : List Fragment}
    (each : ∀ sql ∈ fragments, Safe allowed sql) (separates : isSeparator separator = true) :
    Safe allowed (Fragment.joined separator fragments) := by
  induction fragments with
  | nil => exact nil
  | cons sql fragments ih =>
      have others := ih fun other among => each other (List.mem_cons_of_mem _ among)
      have front := each sql (List.mem_cons_self ..)
      cases fragments with
      | nil =>
          rw [Fragment.joined, List.intercalate_singleton]
          exact front
      | cons next fragments =>
          rw [Fragment.joined, List.intercalate_cons_cons]
          exact between front others separates

end Safe

/-- A safe fragment is a group where the fragments around it begin and end with a bracket. -/
theorem Safe.grouped {opening closing : Fragment} (safe : Safe allowed first)
    (before after : Fragment) (encloses : isEnclosure before after = true)
    (opens : opening.render = "(" ++ before.render)
    (closes : closing.render = after.render ++ ")") :
    Grouped allowed (opening ++ first ++ closing) := by
  obtain ⟨lexemes, sound, balanced, written⟩ := safe.enclosed encloses
  refine ⟨lexemes, sound, balanced, ?_⟩
  simp only [render_append, String.toList_append] at written
  simp [opens, closes, written, write]

/-- What stands between brackets is grouped. -/
theorem Safe.bracketed (safe : Safe allowed first) :
    Grouped allowed (Fragment.bracketed first) := by
  have whole : Grouped allowed ("(" ++ first ++ ")") :=
    safe.grouped [] [] (by decide) (by decide) (by decide)
  exact whole

theorem Grouped.safe (grouped : Grouped allowed first) : Safe allowed first := by
  obtain ⟨inner, sound, balanced, written⟩ := grouped
  exact ⟨_, sound.grouped, balanced.grouped, written⟩

/-- A call of a function with safe arguments is safe. -/
theorem Safe.call {function : String} {arguments : List Fragment}
    (each : ∀ sql ∈ arguments, Safe allowed sql) (named : isSeparator function = true) :
    Safe allowed (Fragment.call function arguments) := by
  have listed : Safe allowed (Fragment.joined ", " arguments) := Safe.joined each (by decide)
  exact listed.bracketed.safe.after named

theorem writeAll_column (name : String) :
    writeAll [.identifier name] = (render [.column name]).toList := by
  simp [write_identifier, Piece.render]

theorem writeAll_string {content : String} (fixed : content ∈ fixedStrings) :
    writeAll [.string content] = (render ("'" ++ content ++ "'" : String)).toList := by
  have read : ∀ content ∈ fixedStrings,
      (Lexeme.string content).write = ("'" ++ content ++ "'").toList := by
    decide
  simp [read content fixed, Piece.render]

theorem safe_fixed {sql : Fragment} (fixed : isSeparator sql = true) : Safe allowed sql :=
  Safe.nil.before fixed

theorem safe_string {content : String} (fixed : content ∈ fixedStrings) :
    Safe allowed ("'" ++ content ++ "'" : String) :=
  ⟨[.string content], .single fixed, rfl, writeAll_string fixed⟩

end Fragment

end Cql.Sql
