/-!
# Names of bound parameters

A bound parameter is called `cql_` and four lowercase letters. The letters come from a source of
random numbers; a name that is taken is drawn again a few times, and after that the next free one
in alphabetical order is used, with the first following the last.
-/

namespace Cql

/-- A source of random numbers: the number that each draw yields, by the count of draws before it.
Only the remainder modulo the size of the alphabet matters. -/
abbrev Draws := Nat → Nat

namespace Draws

/-- The next number of a counting source: 1, 2, 3, and so on, reduced modulo `bound`. A bound of
zero yields zero and does not count. Returns the new count beside the number. -/
def countUp (count bound : Nat) : Nat × Nat :=
  if bound = 0 then (0, count) else ((count + 1) % bound, count + 1)

end Draws

namespace ParameterName

def alphabetSize : Nat := 26

def nameLength : Nat := 4

def nameCount : Nat :=
  Nat.pow alphabetSize nameLength

def drawLimit : Nat := 8

/-- The letters of a name, as numbers of any size. -/
abbrev Letters := { letters : List Nat // letters.length = nameLength }

def letter (number : Nat) : Char :=
  Char.ofNat ('a'.toNat + number % alphabetSize)

def spell (letters : Letters) : String :=
  String.ofList ("cql_".toList ++ letters.val.map letter)

def drawLetters (draws : Draws) (drawn : Nat) : Letters :=
  ⟨(List.range nameLength).map fun i => draws (drawn + i),
    (List.length_map ..).trans List.length_range⟩

/-- Advances the first letter, and the next one where the first begins anew. -/
def carry : List Nat → List Nat
  | [] => []
  | number :: others =>
      let next := (number + 1) % alphabetSize
      if next ≠ 0 then next :: others else next :: carry others

theorem length_carry (numbers : List Nat) : (carry numbers).length = numbers.length := by
  induction numbers with
  | nil => rfl
  | cons number others ih =>
      rw [carry]
      split
      · rfl
      · rw [List.length_cons, List.length_cons, ih]

def increment (letters : Letters) : Letters :=
  ⟨(carry letters.val.reverse).reverse,
    by rw [List.length_reverse, length_carry, List.length_reverse, letters.property]⟩

/-- Draws letters until they spell a free name, at most `attempts` times. Returns the name, the last
letters and the count of draws. -/
def drawFree (taken : String → Bool) (draws : Draws) :
    Nat → Letters → Nat → Option String × Letters × Nat
  | 0, letters, drawn => (none, letters, drawn)
  | attempts + 1, _, drawn =>
      let letters := drawLetters draws drawn
      let name := spell letters
      if taken name then drawFree taken draws attempts letters (drawn + nameLength)
      else (some name, letters, drawn + nameLength)

def nextFree (taken : String → Bool) : Nat → Letters → Option String
  | 0, _ => none
  | steps + 1, letters =>
      let next := increment letters
      let name := spell next
      if taken name then nextFree taken steps next else some name

/-- A free name, and the count of draws after it was found; `none` when all names are taken. -/
def fresh (taken : String → Bool) (draws : Draws) (drawn : Nat) : Option String × Nat :=
  match drawFree taken draws drawLimit ⟨[0, 0, 0, 0], rfl⟩ drawn with
  | (some name, _, drawn) => (some name, drawn)
  | (none, letters, drawn) => (nextFree taken nameCount letters, drawn)

end ParameterName

namespace Draws

def sequential : Draws :=
  fun drawn => (countUp drawn ParameterName.alphabetSize).1

def seeded (seed : UInt64) : Draws := fun drawn =>
  let z := seed + 0x9e3779b97f4a7c15 * (UInt64.ofNat drawn + 1)
  let z := (z ^^^ (z >>> 30)) * 0xbf58476d1ce4e5b9
  let z := (z ^^^ (z >>> 27)) * 0x94d049bb133111eb
  (z ^^^ (z >>> 31)).toNat % ParameterName.alphabetSize

end Draws

end Cql
