/-!
# Quoted identifiers

An identifier may stand between double quotes, and a double quote inside it is then written twice.
-/

namespace Cql.Sql.Identifier

def doubleQuotes : List Char → List Char
  | [] => []
  | c :: cs => if c == '"' then '"' :: '"' :: doubleQuotes cs else c :: doubleQuotes cs

def singleQuotes : List Char → List Char
  | '"' :: '"' :: cs => '"' :: singleQuotes cs
  | c :: cs => c :: singleQuotes cs
  | [] => []

def quote (name : String) : String :=
  String.ofList ('"' :: doubleQuotes name.toList ++ ['"'])

/-- The name that an identifier stands for. An identifier that is not between double quotes is its
own name, and so is a lone double quote. -/
def unquote (identifier : String) : String :=
  match identifier.toList with
  | '"' :: cs =>
      if cs.getLast? == some '"' then String.ofList (singleQuotes cs.dropLast) else identifier
  | _ => identifier

end Cql.Sql.Identifier
