import Cql.Text.CodeRange

/-!
# White space

The Unicode property `White_Space`, and the two uses made of it: taking white space off both ends
of a text, and asking whether a text holds nothing else. The blanks that the filter grammar skips
are fewer and are defined with the grammar.
-/

namespace Cql.Text

def whiteSpaceRanges : List CodeRange :=
  [(0x9, 0xd), (0x20, 0x20), (0x85, 0x85), (0xa0, 0xa0), (0x1680, 0x1680), (0x2000, 0x200a),
   (0x2028, 0x2029), (0x202f, 0x202f), (0x205f, 0x205f), (0x3000, 0x3000)]

def isWhiteSpace (c : Char) : Bool :=
  inRanges whiteSpaceRanges c

def stripBoth (p : Char → Bool) (text : String) : String :=
  String.ofList ((text.toList.dropWhile p).reverse.dropWhile p).reverse

def trim (text : String) : String :=
  stripBoth isWhiteSpace text

/-- Whether a text is empty or holds white space only. -/
def isBlank (text : String) : Bool :=
  text.toList.all isWhiteSpace

end Cql.Text
