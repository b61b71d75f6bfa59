/-!
# Comparison without regard to ASCII case

Keywords, function names and dialect names are compared letter by letter, with the ASCII letters
folded to lower case and all other characters taken as they are.
-/

namespace Cql.Text

/-- Whether two characters agree up to the case of ASCII letters. -/
def sameLetter (a b : Char) : Bool :=
  a.toLower == b.toLower

/-- Whether two texts agree up to the case of ASCII letters. -/
def sameWord (a b : String) : Bool :=
  a.toList.map Char.toLower == b.toList.map Char.toLower

def lower (text : String) : String :=
  String.ofList (text.toList.map Char.toLower)

theorem sameWord_iff {a b : String} : sameWord a b = true ↔ lower a = lower b := by
  rw [sameWord, beq_iff_eq, lower, lower, String.ofList_inj]

end Cql.Text
