import Mathlib.Order.WithBot
import Cql.Proofs.Sql.Exposure

/-!
# Sentences about points in time

A condition on points in time is a text. A sentence is what the text says: that it holds always, or
never, or that several comparisons hold together, or that they do not. The symbols of the
comparisons have their meaning from a table that is read here and nowhere else.

Where no blank of a point in time stands outside brackets and quotes, the blanks of a text show
where the points and the symbols end, and the text says one thing only.
-/

namespace Cql.Temporal

open Cql.Sql Lexeme

/-- Two points in time with a symbol between them, as they are written. -/
@[ext]
structure Link where
  left : String
  symbol : String
  right : String
  deriving DecidableEq, Repr

def Link.text (link : Link) : String :=
  link.left ++ " " ++ link.symbol ++ " " ++ link.right

/-- What a text says about points in time. -/
inductive Sentence where
  | always
  | never
  | together (first : Link) (others : List Link)
  | notTogether (first : Link) (others : List Link)
  deriving DecidableEq, Repr

namespace Sentence

def links : Sentence → List Link
  | .always | .never => []
  | .together first others | .notTogether first others => first :: others

def linked (first : Link) (others : List Link) : String :=
  " AND ".intercalate ((first :: others).map Link.text)

def text : Sentence → String
  | .always => "1 = 1"
  | .never => "1 = 0"
  | .together first others => "(" ++ linked first others ++ ")"
  | .notTogether first others => "(NOT (" ++ linked first others ++ "))"

end Sentence

/-! ## Truth -/

section Truth

variable {α : Type*} [LinearOrder α] (moment : String → α)

/-- What the link says when every point in time has its place in an order. -/
def Link.Holds (link : Link) : Prop :=
  match link.symbol with
  | "<" => moment link.left < moment link.right
  | "<=" => moment link.left ≤ moment link.right
  | "=" => moment link.left = moment link.right
  | ">=" => moment link.left ≥ moment link.right
  | ">" => moment link.left > moment link.right
  | _ => False

def Sentence.Holds : Sentence → Prop
  | .always => True
  | .never => False
  | .together first others => ∀ link ∈ first :: others, link.Holds moment
  | .notTogether first others => ¬∀ link ∈ first :: others, link.Holds moment

end Truth

/-! ## Reading -/

/-- Brackets are balanced, and no blank stands outside of them. -/
def Tight (lexemes : List Lexeme) : Prop :=
  Balanced lexemes ∧ ' ' ∉ exposed [] lexemes

/-- A text without a blank outside brackets and quotes. -/
def IsAtom (text : String) : Prop :=
  ∃ lexemes, scan text = some lexemes ∧ Tight lexemes

def Link.IsClear (link : Link) : Prop :=
  IsAtom link.left ∧ IsAtom link.symbol ∧ IsAtom link.right

/-- The sentence says what the text says about the given points in time. It is the only one that
does, where the points are written without a blank outside brackets and quotes. -/
structure Sentence.IsReading (points : List String) (text : String) (sentence : Sentence) :
    Prop where
  written : sentence.text = text
  compared : ∀ link ∈ sentence.links, link.left ∈ points ∧ link.right ∈ points
  only : (∀ point ∈ points, IsAtom point) →
    ∀ other : Sentence, other.text = text → (∀ link ∈ other.links, link.IsClear) →
      other = sentence

/-! ## Blanks tell the parts of a text apart -/

theorem Tight.ne_append {first second : List Lexeme} (one : Tight first) (two : Tight second)
    (rest : List Lexeme) : second ≠ first ++ .mark ' ' :: rest := by
  rintro rfl
  refine two.2 ?_
  rw [exposed_append one.1, exposed]
  exact List.mem_append_right _ List.mem_cons_self

/-- Tight rows end at the first blank that is seen. -/
theorem Tight.cancel {first second more others : List Lexeme} (one : Tight first)
    (two : Tight second)
    (same : first ++ .mark ' ' :: more = second ++ .mark ' ' :: others) :
    first = second ∧ more = others := by
  rcases List.append_eq_append_iff.1 same with ⟨extra, longer, rest⟩ | ⟨extra, longer, rest⟩
  · cases extra with
    | nil => exact ⟨by simpa using longer.symm, by simpa using rest⟩
    | cons lexeme extra =>
        cases (List.cons.inj rest).1
        exact absurd longer (one.ne_append two extra)
  · cases extra with
    | nil => exact ⟨by simpa using longer, by simpa using rest.symm⟩
    | cons lexeme extra =>
        cases (List.cons.inj rest).1
        exact absurd longer (two.ne_append one extra)

/-- Tight rows with a blank between each two can be told apart. -/
theorem eq_of_intercalate {rows rows' : List (List Lexeme)} (tight : ∀ row ∈ rows, Tight row)
    (tight' : ∀ row ∈ rows', Tight row) (nonempty : rows ≠ []) (nonempty' : rows' ≠ [])
    (same : [Lexeme.mark ' '].intercalate rows = [Lexeme.mark ' '].intercalate rows') :
    rows = rows' := by
  induction rows generalizing rows' with
  | nil => exact absurd rfl nonempty
  | cons row rows ih =>
      cases rows' with
      | nil => exact absurd rfl nonempty'
      | cons row' rows' =>
          obtain ⟨front, back⟩ := List.forall_mem_cons.1 tight
          obtain ⟨front', back'⟩ := List.forall_mem_cons.1 tight'
          cases rows with
          | nil =>
              cases rows' with
              | nil => simpa using same
              | cons next' rows' =>
                  rw [List.intercalate_singleton, List.intercalate_cons_cons, List.append_assoc]
                    at same
                  exact absurd same (front'.ne_append front _)
          | cons next rows =>
              cases rows' with
              | nil =>
                  rw [List.intercalate_singleton, List.intercalate_cons_cons, List.append_assoc]
                    at same
                  exact absurd same.symm (front.ne_append front' _)
              | cons next' rows' =>
                  rw [List.intercalate_cons_cons, List.intercalate_cons_cons, List.append_assoc,
                    List.append_assoc] at same
                  obtain ⟨rfl, rest⟩ := front.cancel front' same
                  rw [ih back back' (List.cons_ne_nil _ _) (List.cons_ne_nil _ _) rest]

def lexemesOf (text : String) : List Lexeme :=
  (scan text).getD []

theorem IsAtom.scan_eq {text : String} (atom : IsAtom text) :
    scan text = some (lexemesOf text) ∧ Tight (lexemesOf text) := by
  obtain ⟨lexemes, scanned, tight⟩ := atom
  rw [lexemesOf, scanned]
  exact ⟨rfl, tight⟩

theorem IsAtom.ofList_lexemesOf {text : String} (atom : IsAtom text) :
    String.ofList (writeAll (lexemesOf text)) = text := by
  have written : writeAll (lexemesOf text) = [] ++ text.toList :=
    writeAll_of_scanFrom atom.scan_eq.1 trivial
  rw [written, List.nil_append, String.ofList_toList]

theorem scan_intercalate {first : String} {parts : List String}
    (atoms : ∀ part ∈ first :: parts, IsAtom part) :
    scan (" ".intercalate (first :: parts))
      = some ([Lexeme.mark ' '].intercalate ((first :: parts).map lexemesOf)) := by
  induction parts generalizing first with
  | nil => simpa using (List.forall_mem_singleton.1 atoms).scan_eq.1
  | cons next parts ih =>
      obtain ⟨front, back⟩ := List.forall_mem_cons.1 atoms
      have split : (" ".intercalate (first :: next :: parts)).toList
          = first.toList ++ ' ' :: (" ".intercalate (next :: parts)).toList := by
        simp [String.intercalate_cons_cons]
      rw [scan, split, scanFrom_append front.scan_eq.1 trivial rfl, ← scan, ih back]
      simp [List.intercalate_cons_cons]

theorem balanced_intercalate {rows : List (List Lexeme)} (tight : ∀ row ∈ rows, Tight row) :
    Balanced ([Lexeme.mark ' '].intercalate rows) := by
  induction rows with
  | nil => rfl
  | cons row rows ih =>
      obtain ⟨front, back⟩ := List.forall_mem_cons.1 tight
      cases rows with
      | nil => simpa using front.1
      | cons next rows =>
          have blank : Balanced [Lexeme.mark ' '] := rfl
          rw [List.intercalate_cons_cons]
          exact (front.1.append blank).append (ih back)

theorem map_ofList_lexemesOf {parts : List String} (atoms : ∀ part ∈ parts, IsAtom part) :
    (parts.map lexemesOf).map (fun row => String.ofList (writeAll row)) = parts := by
  rw [List.map_map]
  exact (List.map_congr_left fun part among => (atoms part among).ofList_lexemesOf).trans
    (List.map_id' parts)

/-- Atoms with a blank between each two can be told apart. -/
theorem eq_of_joined {first first' : String} {parts parts' : List String}
    (atoms : ∀ part ∈ first :: parts, IsAtom part)
    (atoms' : ∀ part ∈ first' :: parts', IsAtom part)
    (same : " ".intercalate (first :: parts) = " ".intercalate (first' :: parts')) :
    first :: parts = first' :: parts' := by
  have read := scan_intercalate atoms
  rw [same, scan_intercalate atoms', Option.some.injEq] at read
  have rows := eq_of_intercalate
    (List.forall_mem_map.2 fun part among => (atoms part among).scan_eq.2)
    (List.forall_mem_map.2 fun part among => (atoms' part among).scan_eq.2)
    (List.cons_ne_nil _ _) (List.cons_ne_nil _ _) read.symm
  rw [← map_ofList_lexemesOf atoms, rows, map_ofList_lexemesOf atoms']

/-! ## A text has one reading -/

namespace Sentence

/-- What follows the first point of a conjunction, cut at its blanks. -/
def rest : Link → List Link → List String
  | link, [] => [link.symbol, link.right]
  | link, next :: others => link.symbol :: link.right :: "AND" :: next.left :: rest next others

theorem linked_eq (first : Link) (others : List Link) :
    linked first others = " ".intercalate (first.left :: rest first others) := by
  induction others generalizing first with
  | nil => simp [linked, rest, Link.text, String.intercalate_cons_cons, String.append_assoc]
  | cons next others ih =>
      have step : linked first (next :: others) = first.text ++ " AND " ++ linked next others := by
        simp [linked, String.intercalate_cons_cons]
      rw [step, ih, rest, show " AND " = " " ++ "AND" ++ " " from rfl]
      simp only [Link.text, String.intercalate_cons_cons, String.append_assoc]

theorem eq_of_rest {first first' : Link} {others others' : List Link}
    (start : first.left = first'.left) (same : rest first others = rest first' others') :
    first = first' ∧ others = others' := by
  induction others generalizing first first' others' with
  | nil =>
      cases others' with
      | nil =>
          simp only [rest, List.cons.injEq, and_true] at same
          exact ⟨Link.ext start same.1 same.2, rfl⟩
      | cons next' others' => simp [rest] at same
  | cons next others ih =>
      cases others' with
      | nil => simp [rest] at same
      | cons next' others' =>
          simp only [rest, List.cons.injEq, true_and] at same
          obtain ⟨symbol, right, begin, tail⟩ := same
          obtain ⟨rfl, rfl⟩ := ih begin tail
          exact ⟨Link.ext start symbol right, rfl⟩

theorem isAtom_of_mem_rest {first : Link} {others : List Link}
    (clear : ∀ link ∈ first :: others, link.IsClear) :
    ∀ part ∈ first.left :: rest first others, IsAtom part := by
  have word : IsAtom "AND" := ⟨_, rfl, rfl, by decide⟩
  induction others generalizing first with
  | nil =>
      obtain ⟨left, symbol, right⟩ := List.forall_mem_singleton.1 clear
      simp only [rest, List.forall_mem_cons]
      exact ⟨left, symbol, right, List.forall_mem_nil _⟩
  | cons next others ih =>
      obtain ⟨⟨left, symbol, right⟩, back⟩ := List.forall_mem_cons.1 clear
      have later := ih back
      simp only [rest, List.forall_mem_cons] at later ⊢
      exact ⟨left, symbol, right, word, later⟩

/-- Two conjunctions of clear links that are written alike are the same. -/
theorem eq_of_linked {first first' : Link} {others others' : List Link}
    (clear : ∀ link ∈ first :: others, link.IsClear)
    (clear' : ∀ link ∈ first' :: others', link.IsClear)
    (same : linked first others = linked first' others') : first = first' ∧ others = others' := by
  rw [linked_eq, linked_eq] at same
  have parts := eq_of_joined (isAtom_of_mem_rest clear) (isAtom_of_mem_rest clear') same
  obtain ⟨start, tail⟩ := List.cons.inj parts
  exact eq_of_rest start tail

theorem isAtom_bracketed {first : Link} {others : List Link}
    (clear : ∀ link ∈ first :: others, link.IsClear) :
    IsAtom ("(" ++ linked first others ++ ")") := by
  have atoms := isAtom_of_mem_rest clear
  have read := scan_intercalate atoms
  have balanced := balanced_intercalate
    (List.forall_mem_map.2 fun part among => (atoms part among).scan_eq.2)
  rw [← linked_eq] at read
  generalize [Lexeme.mark ' '].intercalate ((first.left :: rest first others).map lexemesOf) = inner
    at read balanced
  refine ⟨.mark '(' :: inner ++ [.mark ')'], ?_, balanced.grouped, ?_⟩
  · have split : ("(" ++ linked first others ++ ")").toList
        = '(' :: ((linked first others).toList ++ [')']) := by simp
    have closed := scanFrom_append read trivial (show isQuote ')' = false from rfl) []
    rw [scan, split]
    simp [scanFrom, isQuote, closed]
  · rw [exposed_grouped balanced]
    simp

/-- A conjunction is not written like the negation of one. -/
theorem linked_ne_negated {first first' : Link} {others others' : List Link}
    (clear : ∀ link ∈ first :: others, link.IsClear)
    (clear' : ∀ link ∈ first' :: others', link.IsClear) :
    linked first others ≠ "NOT (" ++ linked first' others' ++ ")" := by
  intro same
  have word : IsAtom "NOT" := ⟨_, rfl, rfl, by decide⟩
  have group := isAtom_bracketed clear'
  have joined : "NOT (" ++ linked first' others' ++ ")"
      = " ".intercalate ["NOT", "(" ++ linked first' others' ++ ")"] := by
    rw [String.intercalate_cons_cons, String.intercalate_singleton,
      show "NOT (" = "NOT" ++ " " ++ "(" from rfl]
    simp only [String.append_assoc]
  rw [joined, linked_eq] at same
  have parts := eq_of_joined (isAtom_of_mem_rest clear)
    (List.forall_mem_cons.2 ⟨word, List.forall_mem_singleton.2 group⟩) same
  cases others <;> simp [rest] at parts

/-- What stands between the outermost brackets; a sentence with a fixed truth value has none. -/
def body : Sentence → Option String
  | .always | .never => none
  | .together first others => some (linked first others)
  | .notTogether first others => some ("NOT (" ++ linked first others ++ ")")

theorem text_of_body {sentence : Sentence} {inner : String} (between : sentence.body = some inner) :
    sentence.text.toList = '(' :: inner.toList ++ [')'] := by
  cases sentence <;> cases between <;> simp [text]

theorem head_of_body {sentence : Sentence} (settled : sentence.body = none) :
    sentence.text.toList.head? = some '1' := by
  cases sentence <;> cases settled <;> rfl

theorem body_eq_of_text {one other : Sentence} (same : one.text = other.text) :
    one.body = other.body := by
  cases first : one.body with
  | none =>
      cases second : other.body with
      | none => rfl
      | some inner =>
          have head := head_of_body first
          rw [same, text_of_body second] at head
          cases head
  | some inner =>
      have whole := text_of_body first
      cases second : other.body with
      | none =>
          have head := head_of_body second
          rw [← same, whole] at head
          cases head
      | some inner' =>
          rw [same, text_of_body second] at whole
          simpa [← String.toList_inj] using whole.symm

/-- Sentences of clear links that are written alike are the same. -/
theorem eq_of_text {one other : Sentence} (clear : ∀ link ∈ one.links, link.IsClear)
    (clear' : ∀ link ∈ other.links, link.IsClear) (same : one.text = other.text) :
    one = other := by
  have body := body_eq_of_text same
  cases one with
  | always =>
      cases other with
      | always => rfl
      | never => exact absurd same (by decide)
      | together _ _ | notTogether _ _ => cases body
  | never =>
      cases other with
      | always => exact absurd same (by decide)
      | never => rfl
      | together _ _ | notTogether _ _ => cases body
  | together first others =>
      cases other with
      | always | never => cases body
      | together first' others' =>
          obtain ⟨rfl, rfl⟩ := eq_of_linked clear clear' (Option.some.inj body)
          rfl
      | notTogether first' others' =>
          exact absurd (Option.some.inj body) (linked_ne_negated clear clear')
  | notTogether first others =>
      cases other with
      | always | never => cases body
      | together first' others' =>
          exact absurd (Option.some.inj body).symm (linked_ne_negated clear' clear)
      | notTogether first' others' =>
          have inner : linked first others = linked first' others' := by
            simpa [Sentence.body, ← String.toList_inj] using body
          obtain ⟨rfl, rfl⟩ := eq_of_linked clear clear' inner
          rfl

end Sentence

end Cql.Temporal
