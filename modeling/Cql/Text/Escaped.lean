import Cql.Text.GraphemeExtend
import Cql.Text.Unprintable

/-!
# Quoted texts in diagnostics

Diagnostics show a text between double quotes. Double quotes and backslashes take a backslash, the
common control characters their letter, and every character that would not be seen on its own is
written as its code point.
-/

namespace Cql.Text

def hexDigits (n : Nat) : String :=
  String.ofList (Nat.toDigits 16 n)

def escapeChar (c : Char) : String :=
  if c == '"' then "\\\""
  else if c == '\\' then "\\\\"
  else if c == '\n' then "\\n"
  else if c == '\r' then "\\r"
  else if c == '\t' then "\\t"
  else if c.toNat == 0 then "\\0"
  else if isGraphemeExtend c || isUnprintable c then "\\u\x7b" ++ hexDigits c.toNat ++ "\x7d"
  else String.singleton c

def quoted (text : String) : String :=
  "\"" ++ String.join (text.toList.map escapeChar) ++ "\""

end Cql.Text
