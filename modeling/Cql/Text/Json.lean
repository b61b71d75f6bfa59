import Cql.Text.Escaped

/-!
# JSON texts

Compiled filters are printed as JSON, with the members of an object on lines of their own.
-/

namespace Cql.Text

/-- A character inside a JSON string. Control characters are escaped, all others stand as they
are. -/
def jsonChar (c : Char) : String :=
  if c == '"' then "\\\""
  else if c == '\\' then "\\\\"
  else if c == '\n' then "\\n"
  else if c == '\r' then "\\r"
  else if c == '\t' then "\\t"
  else if c.toNat == 0x8 then "\\b"
  else if c.toNat == 0xc then "\\f"
  else if c.toNat < 0x10 then "\\u000" ++ hexDigits c.toNat
  else if c.toNat < 0x20 then "\\u00" ++ hexDigits c.toNat
  else String.singleton c

def jsonString (text : String) : String :=
  "\"" ++ String.join (text.toList.map jsonChar) ++ "\""

/-- A JSON object with the given members, whose values are JSON already. The members are indented by
`indent` and two more blanks. -/
def jsonObject (indent : String) (members : List (String × String)) : String :=
  if members.isEmpty then "\x7b\x7d"
  else
    let lines := members.map fun member =>
      indent ++ "  " ++ jsonString member.1 ++ ": " ++ member.2
    "\x7b\n" ++ String.intercalate ",\n" lines ++ "\n" ++ indent ++ "\x7d"

end Cql.Text
