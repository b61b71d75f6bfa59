import Cql.Compile.ParameterName
import Mathlib.Data.List.Nodup
import Mathlib.Data.List.Perm.Subperm

/-!
# Fresh names

The search for a name that is not taken finds one whenever there is one: the names drawn at random
may all be taken, but the walk that follows comes past every name before it gives up.
-/

namespace Cql.ParameterName

/-- The name with the given index in alphabetical order. -/
def ofIndex (index : Nat) : String :=
  let tens := index / alphabetSize
  let hundreds := tens / alphabetSize
  let thousands := hundreds / alphabetSize
  String.ofList ['c', 'q', 'l', '_', letter thousands, letter hundreds, letter tens, letter index]

theorem mod_eq_of_letter {i j : Nat} (same : letter i = letter j) :
    i % alphabetSize = j % alphabetSize := by
  have table : ∀ a : Fin 26, ∀ b : Fin 26,
      Char.ofNat (97 + a.val) = Char.ofNat (97 + b.val) → a = b := by
    decide
  have bounded (n : Nat) : n % 26 < 26 := Nat.mod_lt n (by decide)
  exact congrArg Fin.val (table ⟨i % 26, bounded i⟩ ⟨j % 26, bounded j⟩ same)

theorem ofIndex_injective {i j : Nat} (first : i < nameCount) (second : j < nameCount)
    (same : ofIndex i = ofIndex j) : i = j := by
  have letters := String.ofList_inj.1 same
  simp only [List.cons.injEq, true_and, and_true] at letters
  obtain ⟨thousands, hundreds, tens, ones⟩ := letters
  have a := mod_eq_of_letter thousands
  have b := mod_eq_of_letter hundreds
  have c := mod_eq_of_letter tens
  have d := mod_eq_of_letter ones
  have count : nameCount = 456976 := rfl
  rw [count] at first second
  simp only [alphabetSize] at a b c d
  omega

/-! ## Counting on -/

/-- The number that letters stand for, the first of them counting least. -/
def value : List Nat → Nat
  | [] => 0
  | number :: others => number % alphabetSize + alphabetSize * value others

theorem pow_length_cons (number : Nat) (others : List Nat) :
    Nat.pow alphabetSize (number :: others).length
      = alphabetSize * Nat.pow alphabetSize others.length :=
  Nat.mul_comm ..

theorem value_lt (numbers : List Nat) : value numbers < Nat.pow alphabetSize numbers.length := by
  induction numbers with
  | nil => exact Nat.one_pos
  | cons number others ih =>
      have digit : number % alphabetSize < alphabetSize := Nat.mod_lt _ (by decide)
      rw [value, pow_length_cons]
      calc number % alphabetSize + alphabetSize * value others
          < alphabetSize + alphabetSize * value others := Nat.add_lt_add_right digit _
        _ = alphabetSize * (value others + 1) := by rw [Nat.mul_succ, Nat.add_comm]
        _ ≤ alphabetSize * Nat.pow alphabetSize others.length := Nat.mul_le_mul_left _ ih

/-- Carrying counts on by one and begins anew after the last number. -/
theorem value_carry (numbers : List Nat) :
    value (carry numbers) = (value numbers + 1) % Nat.pow alphabetSize numbers.length := by
  induction numbers with
  | nil => rfl
  | cons number others ih =>
      have bound := value_lt others
      rw [pow_length_cons, carry]
      generalize Nat.pow alphabetSize others.length = count at bound ih ⊢
      split
      · next stays =>
          have next : (number + 1) % alphabetSize % alphabetSize = number % alphabetSize + 1 := by
            simp only [alphabetSize] at stays ⊢
            omega
          have small : number % alphabetSize + alphabetSize * value others + 1
              < alphabetSize * count := by
            have digit : number % alphabetSize + 1 < alphabetSize := by
              rw [← next]
              exact Nat.mod_lt _ (by decide)
            calc number % alphabetSize + alphabetSize * value others + 1
                < alphabetSize * (value others + 1) := by rw [Nat.mul_succ]; omega
              _ ≤ alphabetSize * count := Nat.mul_le_mul_left _ bound
          rw [value, value, next, Nat.mod_eq_of_lt small, Nat.add_right_comm]
      · next wraps =>
          have last : number % alphabetSize + 1 = alphabetSize := by
            simp only [alphabetSize] at wraps ⊢
            omega
          have zero : (number + 1) % alphabetSize = 0 := Decidable.not_not.1 wraps
          calc value ((number + 1) % alphabetSize :: carry others)
              = alphabetSize * ((value others + 1) % count) := by
                rw [value, zero, Nat.zero_mod, Nat.zero_add, ih]
            _ = alphabetSize * (value others + 1) % (alphabetSize * count) :=
                (Nat.mul_mod_mul_left ..).symm
            _ = (value (number :: others) + 1) % (alphabetSize * count) := by
                rw [value, Nat.add_right_comm, last, Nat.mul_succ, Nat.add_comm alphabetSize]

def index (letters : Letters) : Nat :=
  value letters.val.reverse

theorem index_lt (letters : Letters) : index letters < nameCount := by
  have bound := value_lt letters.val.reverse
  rwa [List.length_reverse, letters.property] at bound

/-- The next letters stand one place further on, and the first ones follow the last. -/
theorem index_increment (letters : Letters) :
    index (increment letters) = (index letters + 1) % nameCount := by
  rw [index, increment, List.reverse_reverse, value_carry, List.length_reverse, letters.property]
  rfl

theorem spell_eq_ofIndex (letters : Letters) : spell letters = ofIndex (index letters) := by
  obtain ⟨numbers, four⟩ := letters
  obtain ⟨a, b, c, d, rfl⟩ : ∃ a b c d, numbers = [a, b, c, d] := List.length_eq_four.1 four
  have digit {i j : Nat} (same : i % alphabetSize = j % alphabetSize) : letter i = letter j := by
    rw [letter, letter, same]
  have place : index ⟨[a, b, c, d], four⟩
      = d % 26 + 26 * (c % 26 + 26 * (b % 26 + 26 * (a % 26 + 26 * 0))) := rfl
  rw [ofIndex, place]
  refine congrArg String.ofList (congrArg (['c', 'q', 'l', '_'] ++ ·) ?_)
  simp only [List.map_cons, List.map_nil, List.cons.injEq, and_true]
  refine ⟨digit ?_, digit ?_, digit ?_, digit ?_⟩ <;> simp only [alphabetSize] <;> omega

/-! ## The search -/

variable {taken : String → Bool} {draws : Draws}

theorem free_of_drawFree {attempts drawn last : Nat} {letters letters' : Letters} {name : String}
    (found : drawFree taken draws attempts letters drawn = (some name, letters', last)) :
    taken name = false ∧ name = spell letters' := by
  induction attempts generalizing letters drawn with
  | zero => simp [drawFree] at found
  | succ attempts ih =>
      simp only [drawFree] at found
      split at found
      · exact ih found
      · next free =>
          cases found
          exact ⟨Bool.eq_false_iff.2 free, rfl⟩

theorem free_of_nextFree {steps : Nat} {letters : Letters} {name : String}
    (found : nextFree taken steps letters = some name) :
    taken name = false ∧ ∃ letters', name = spell letters' := by
  induction steps generalizing letters with
  | zero => cases found
  | succ steps ih =>
      simp only [nextFree] at found
      split at found
      · exact ih found
      · next free =>
          cases found
          exact ⟨Bool.eq_false_iff.2 free, increment letters, rfl⟩

/-- When the walk finds nothing, all the names that it came past are taken. -/
theorem taken_of_nextFree {steps : Nat} {letters : Letters}
    (missed : nextFree taken steps letters = none) {k : Nat} (ahead : 0 < k) (within : k ≤ steps) :
    taken (ofIndex ((index letters + k) % nameCount)) = true := by
  induction steps generalizing letters k with
  | zero => omega
  | succ steps ih =>
      simp only [nextFree] at missed
      split at missed
      · next next =>
          by_cases first : k = 1
          · rw [first, ← index_increment, ← spell_eq_ofIndex]
            exact next
          · have later := ih missed (k := k - 1) (by omega) (by omega)
            rw [index_increment, Nat.mod_add_mod] at later
            rw [show index letters + k = index letters + 1 + (k - 1) by omega]
            exact later
      · cases missed

theorem taken_of_round {letters : Letters} {place : Nat}
    (missed : nextFree taken nameCount letters = none) (named : place < nameCount) :
    taken (ofIndex place) = true := by
  have bound := index_lt letters
  have reached : ∃ k, 0 < k ∧ k ≤ nameCount ∧ (index letters + k) % nameCount = place := by
    by_cases ahead : index letters < place
    · refine ⟨place - index letters, by omega, by omega, ?_⟩
      rw [Nat.add_sub_of_le (Nat.le_of_lt ahead), Nat.mod_eq_of_lt named]
    · refine ⟨place + nameCount - index letters, by omega, by omega, ?_⟩
      rw [Nat.add_sub_of_le (by omega), Nat.add_mod_right, Nat.mod_eq_of_lt named]
  obtain ⟨k, ahead, within, rfl⟩ := reached
  exact taken_of_nextFree missed ahead within

theorem free_of_fresh {drawn last : Nat} {name : String}
    (found : fresh taken draws drawn = (some name, last)) :
    taken name = false ∧ ∃ index < nameCount, name = ofIndex index := by
  have spelt (letters : Letters) : ∃ index < nameCount, spell letters = ofIndex index :=
    ⟨index letters, index_lt letters, spell_eq_ofIndex letters⟩
  simp only [fresh] at found
  split at found
  · next drew =>
      cases found
      obtain ⟨free, rfl⟩ := free_of_drawFree drew
      exact ⟨free, spelt _⟩
  · obtain ⟨walked, _⟩ := Prod.mk.inj found
    obtain ⟨free, letters, rfl⟩ := free_of_nextFree walked
    exact ⟨free, spelt letters⟩

theorem taken_of_fresh {drawn last : Nat} (missed : fresh taken draws drawn = (none, last))
    {index : Nat} (named : index < nameCount) : taken (ofIndex index) = true := by
  simp only [fresh] at missed
  split at missed
  · cases missed
  · obtain ⟨walked, _⟩ := Prod.mk.inj missed
    exact taken_of_round walked named

/-! ## Counting names -/

/-- The names in a list are different from each other, and each is one of the names of
parameters. -/
structure Distinct (names : List String) : Prop where
  nodup : names.Nodup
  named : ∀ name ∈ names, ∃ index < nameCount, name = ofIndex index

theorem Distinct.concat {names : List String} (distinct : Distinct names) {index : Nat}
    (fresh : ofIndex index ∉ names) (named : index < nameCount) :
    Distinct (names ++ [ofIndex index]) where
  nodup := by
    refine List.nodup_append.2 ⟨distinct.nodup, List.nodup_singleton _, ?_⟩
    intro name among other same
    rw [List.mem_singleton.1 same]
    rintro rfl
    exact fresh among
  named := by
    intro name among
    rcases List.mem_append.1 among with earlier | last
    · exact distinct.named name earlier
    · exact ⟨index, named, List.mem_singleton.1 last⟩

def allNames : List String :=
  (List.range nameCount).map ofIndex

theorem mem_allNames {name : String} :
    name ∈ allNames ↔ ∃ index < nameCount, name = ofIndex index := by
  simp [allNames, eq_comm]

theorem length_allNames : allNames.length = nameCount := by
  rw [allNames, List.length_map, List.length_range]

theorem nodup_allNames : allNames.Nodup := by
  refine List.Nodup.map_on ?_ List.nodup_range
  intro i first j second same
  exact ofIndex_injective (List.mem_range.1 first) (List.mem_range.1 second) same

/-- Distinct names are all the names exactly when there are as many of them. -/
theorem Distinct.all_iff {names : List String} (distinct : Distinct names) :
    (∀ index < nameCount, ofIndex index ∈ names) ↔ nameCount ≤ names.length := by
  constructor
  · intro all
    have inside : allNames ⊆ names := by
      intro name among
      obtain ⟨index, named, rfl⟩ := mem_allNames.1 among
      exact all index named
    rw [← length_allNames]
    exact (List.subperm_of_subset nodup_allNames inside).length_le
  · intro many index named
    have inside : names ⊆ allNames := fun name among =>
      mem_allNames.2 (distinct.named name among)
    have whole := (List.subperm_of_subset distinct.nodup inside).perm_of_length_le
      (by rw [length_allNames]; exact many)
    exact whole.mem_iff.2 (mem_allNames.2 ⟨index, named, rfl⟩)

end Cql.ParameterName
