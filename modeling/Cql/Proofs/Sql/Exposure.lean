import Cql.Proofs.Sql.Lexeme

/-!
# What stands outside brackets and quotes

The connectives `AND`, `OR` and `NOT` take part in a condition only where they stand outside
brackets and quotes, since brackets bind most tightly and a quotation is a single thing. A text that
shows no connective there is a unit: put next to `NOT`, `AND` or `OR` it is taken as a whole. What
lies between brackets is hidden, so that a bracketed text is a unit whatever is in it.
-/

namespace Cql.Sql.Lexeme

/-- What is seen of a lexeme while the given brackets are open. Inside brackets nothing is seen of
it, and nothing is seen of a quotation. -/
def face (opened : List Char) : Lexeme → Char
  | .mark c => if opened = [] then c else '"'
  | _ => '"'

def exposed (opened : List Char) : List Lexeme → List Char
  | [] => []
  | lexeme :: lexemes => lexeme.face opened :: exposed ((turn opened lexeme).getD []) lexemes

def isWordPart (c : Char) : Bool :=
  c.isAlphanum || c == '_'

/-- The longest rows of word characters, the first of them continuing the given one. -/
def wordsFrom (word : List Char) : List Char → List (List Char)
  | [] => [word]
  | c :: cs => if isWordPart c then wordsFrom (word ++ [c]) cs else word :: wordsFrom [] cs

def connectives : List (List Char) :=
  ["AND".toList, "OR".toList, "NOT".toList]

/-- No word is a connective in any case. -/
def Quiet (shown : List Char) : Prop :=
  ∀ word ∈ wordsFrom [] shown, word.map Char.toUpper ∉ connectives

instance (shown : List Char) : Decidable (Quiet shown) :=
  inferInstanceAs (Decidable (∀ word ∈ wordsFrom [] shown, _))

/-- The text is read to its end, its brackets are balanced, and no connective stands outside
brackets and quotes. -/
def IsUnit (text : String) : Prop :=
  ∃ lexemes, scan text = some lexemes ∧ Balanced lexemes ∧ Quiet (exposed [] lexemes)

/-! ## Rows of lexemes -/

theorem exposed_append {opened mid : List Char} {first : List Lexeme}
    (nested : nest opened first = some mid) (second : List Lexeme) :
    exposed opened (first ++ second) = exposed opened first ++ exposed mid second := by
  induction first generalizing opened with
  | nil =>
      cases nested
      rfl
  | cons lexeme first ih =>
      simp only [nest, List.foldlM_cons, Option.bind_eq_bind, Option.bind_eq_some_iff] at nested
      obtain ⟨next, turned, rest⟩ := nested
      simp only [List.cons_append, exposed, turned, Option.getD_some, ih rest]

theorem face_inside (bracket : Char) (opened : List Char) (lexeme : Lexeme) :
    lexeme.face (opened ++ [bracket]) = '"' := by
  cases lexeme <;> simp [face]

/-- Nothing is seen of what stands between brackets. -/
theorem exposed_inside {opened after : List Char} {lexemes : List Lexeme}
    (nested : nest opened lexemes = some after) (bracket : Char) :
    exposed (opened ++ [bracket]) lexemes = List.replicate lexemes.length '"' := by
  induction lexemes generalizing opened with
  | nil => rfl
  | cons lexeme lexemes ih =>
      simp only [nest, List.foldlM_cons, Option.bind_eq_bind, Option.bind_eq_some_iff] at nested
      obtain ⟨next, turned, rest⟩ := nested
      rw [exposed, turn_append turned, Option.getD_some, ih rest, face_inside]
      rfl

theorem Balanced.exposed_inside {lexemes : List Lexeme} (balanced : Balanced lexemes)
    {opened : List Char} (inside : opened ≠ []) :
    exposed opened lexemes = List.replicate lexemes.length '"' := by
  rw [← List.dropLast_append_getLast inside]
  exact Lexeme.exposed_inside (balanced.nest_eq _) _

/-- Of a group only the opening bracket is seen. -/
theorem exposed_grouped {inner : List Lexeme} (balanced : Balanced inner) :
    exposed [] (.mark '(' :: inner ++ [.mark ')'])
      = '(' :: List.replicate (inner.length + 1) '"' := by
  have opens : exposed [] (.mark '(' :: inner ++ [.mark ')'])
      = '(' :: exposed ['('] (inner ++ [.mark ')']) := rfl
  rw [opens, exposed_append (balanced.nest_eq ['(']),
    balanced.exposed_inside (List.cons_ne_nil _ _), List.replicate_succ']
  rfl

theorem exposed_marks {cs : List Char} (level : ∀ c ∈ cs, c ∉ brackets) :
    exposed [] (cs.map .mark) = cs := by
  induction cs with
  | nil => rfl
  | cons c cs ih =>
      obtain ⟨first, others⟩ := List.forall_mem_cons.1 level
      rw [List.map_cons, exposed, turn_of_level first, Option.getD_some, ih others]
      rfl

/-! ## Words -/

theorem wordsFrom_append {c : Char} (gap : isWordPart c = false) (word first second : List Char) :
    wordsFrom word (first ++ c :: second) = wordsFrom word first ++ wordsFrom [] second := by
  induction first generalizing word with
  | nil => simp [wordsFrom, gap]
  | cons d first ih =>
      simp only [List.cons_append, wordsFrom, ih]
      split <;> rfl

theorem wordsFrom_eq {rest : List Char} (whole : ∀ c ∈ rest, isWordPart c = true)
    (word : List Char) : wordsFrom word rest = [word ++ rest] := by
  induction rest generalizing word with
  | nil => rw [wordsFrom, List.append_nil]
  | cons c rest ih =>
      obtain ⟨first, others⟩ := List.forall_mem_cons.1 whole
      rw [wordsFrom, if_pos first, ih others, List.append_assoc, List.singleton_append]

theorem mem_of_mem_wordsFrom {word found shown : List Char} (among : found ∈ wordsFrom word shown) :
    ∀ c ∈ found, c ∈ word ++ shown := by
  induction shown generalizing word with
  | nil =>
      rw [List.mem_singleton.1 among, List.append_nil]
      exact fun c member => member
  | cons d shown ih =>
      intro c member
      rw [wordsFrom] at among
      split at among
      · have within := ih among c member
        rwa [List.append_assoc, List.singleton_append] at within
      · rcases List.mem_cons.1 among with rfl | later
        · exact List.mem_append_left _ member
        · have within := ih later c member
          exact List.mem_append_right _ (List.mem_cons_of_mem _ within)

theorem mem_of_toUpper {c : Char} (first : c.toUpper ∈ ['A', 'O', 'N']) :
    c ∈ ['A', 'a', 'O', 'o', 'N', 'n'] := by
  simp only [List.mem_cons, List.not_mem_nil, or_false] at first ⊢
  unfold Char.toUpper at first
  split at first
  · simp only [Char.ext_iff] at first ⊢
    have shifted {n : UInt32} (same : c.val + ('A'.val - 'a'.val) = n) : c.val = n + 32 := by
      rw [← same, UInt32.add_assoc]
      exact (UInt32.add_zero _).symm
    rcases first with same | same | same
    · exact .inr (.inl (shifted same))
    · exact .inr (.inr (.inr (.inl (shifted same))))
    · exact .inr (.inr (.inr (.inr (.inr (shifted same)))))
  · rcases first with same | same | same
    · exact .inl same
    · exact .inr (.inr (.inl same))
    · exact .inr (.inr (.inr (.inr (.inl same))))

theorem quiet_of_not_mem {shown : List Char}
    (other : ∀ c ∈ shown, c ∉ ['A', 'a', 'O', 'o', 'N', 'n']) : Quiet shown := by
  intro word among connective
  have initials : connectives.map List.head? = ['A', 'O', 'N'].map some := rfl
  cases word with
  | nil => exact absurd connective (by decide)
  | cons c word =>
      have first : some c.toUpper ∈ connectives.map List.head? :=
        List.mem_map_of_mem (f := List.head?) connective
      rw [initials] at first
      obtain ⟨initial, upper, same⟩ := List.mem_map.1 first
      rw [Option.some.inj same] at upper
      exact other c (mem_of_mem_wordsFrom among c List.mem_cons_self) (mem_of_toUpper upper)

theorem quiet_append_cons {c : Char} (gap : isWordPart c = false) {first second : List Char} :
    Quiet (first ++ c :: second) ↔ Quiet first ∧ Quiet second := by
  simp only [Quiet, wordsFrom_append gap, List.forall_mem_append]

theorem quiet_nil : Quiet [] := by
  decide

namespace Quiet

variable {first second : List Char}

/-- Nothing new is seen where a row that ends between words is continued. -/
theorem append_of_last (one : Quiet first) (two : Quiet second) {c : Char}
    (last : first.getLast? = some c) (gap : isWordPart c = false) : Quiet (first ++ second) := by
  rw [← List.dropLast_append_getLast? c last] at one ⊢
  rw [List.append_assoc]
  exact (quiet_append_cons gap).2 ⟨((quiet_append_cons gap).1 one).1, two⟩

theorem append_of_head (one : Quiet first) (two : Quiet second) {c : Char}
    (head : second.head? = some c) (gap : isWordPart c = false) : Quiet (first ++ second) := by
  obtain ⟨rest, rfl⟩ := List.head?_eq_some_iff.1 head
  exact (quiet_append_cons gap).2
    ⟨one, ((@quiet_append_cons c gap [] rest).1 two).2⟩

theorem hidden (quiet : Quiet second) (count : Nat) :
    Quiet (List.replicate count '"' ++ second) := by
  induction count with
  | zero => exact quiet
  | succ count ih => exact (@quiet_append_cons '"' rfl [] _).2 ⟨quiet_nil, ih⟩

end Quiet

end Cql.Sql.Lexeme
