/-!
# Byte offsets and positions

Places in a text are byte offsets of its UTF-8 form. This module splits a text at such an offset
and turns an offset into a line and a column for people to read.
-/

namespace Cql.Text

def byteSize : List Char → Nat
  | [] => 0
  | c :: cs => c.utf8Size + byteSize cs

@[simp] theorem byteSize_nil : byteSize [] = 0 := rfl

@[simp] theorem byteSize_cons (c : Char) (cs : List Char) :
    byteSize (c :: cs) = c.utf8Size + byteSize cs := rfl

@[simp] theorem byteSize_append (first second : List Char) :
    byteSize (first ++ second) = byteSize first + byteSize second := by
  induction first with
  | nil => simp
  | cons c cs ih => simp [ih, Nat.add_assoc]

/-- Every character has at least one byte. -/
theorem length_le_byteSize (cs : List Char) : cs.length ≤ byteSize cs := by
  induction cs with
  | nil => exact Nat.le_refl 0
  | cons c cs ih =>
      have positive := c.utf8Size_pos
      simp only [byteSize_cons, List.length_cons]
      omega

/-- Splits a text before the given byte; `none` when that byte is inside a character or past the
end. -/
def splitAtByte? : List Char → Nat → Option (List Char × List Char)
  | cs, 0 => some ([], cs)
  | [], _ + 1 => none
  | c :: cs, n + 1 =>
      if c.utf8Size ≤ n + 1 then
        (splitAtByte? cs (n + 1 - c.utf8Size)).map fun parts => (c :: parts.1, parts.2)
      else none

/-- A text splits between any two of its parts. -/
theorem splitAtByte?_append (before after : List Char) :
    splitAtByte? (before ++ after) (byteSize before) = some (before, after) := by
  induction before with
  | nil => cases after <;> rfl
  | cons c cs ih =>
      have positive := c.utf8Size_pos
      obtain ⟨n, size⟩ : ∃ n, byteSize (c :: cs) = n + 1 := ⟨_, (Nat.sub_one_add_one (by
        simp only [byteSize_cons]; omega)).symm⟩
      have rest : n + 1 - c.utf8Size = byteSize cs := by
        simp only [byteSize_cons] at size; omega
      have fits : c.utf8Size ≤ n + 1 := by
        simp only [byteSize_cons] at size; omega
      rw [size]
      simp [splitAtByte?, fits, rest, ih]

/-- A line and a column, both counted from one; columns count characters. -/
structure Position where
  line : Nat
  column : Nat
  deriving DecidableEq, Repr

/-- The position right after the given text, read from `start` on. A line ends at a line feed, with
or without a carriage return before it; any other character takes one column. -/
def Position.after (start : Position) : List Char → Position
  | [] => start
  | '\r' :: '\n' :: cs => Position.after ⟨start.line + 1, 1⟩ cs
  | '\n' :: cs => Position.after ⟨start.line + 1, 1⟩ cs
  | _ :: cs => Position.after ⟨start.line, start.column + 1⟩ cs

/-- The position of a byte offset. An offset that splits no two characters of the text is placed on
the first line, in the column of its byte. -/
def positionAt (text : List Char) (offset : Nat) : Position :=
  match splitAtByte? text offset with
  | some (before, _) => Position.after ⟨1, 1⟩ before
  | none => ⟨1, offset + 1⟩

end Cql.Text
