import Cql.Text.Caseless

/-!
# Functions

The functions that a filter may call, and how many arguments each of them takes.
-/

namespace Cql.Sql

/-- How many arguments a function takes; without `most` there is no upper bound. -/
structure Arity where
  least : Nat
  most : Option Nat
  deriving DecidableEq, Repr

namespace Arity

def admits (arity : Arity) (n : Nat) : Bool :=
  arity.least ≤ n && arity.most.all fun most => n ≤ most

def describe (arity : Arity) : String :=
  match arity.most with
  | none => s!"at least {arity.least}"
  | some most => if arity.least = most then s!"{most}" else s!"{arity.least} to {most}"

end Arity

def functions : List (String × Arity) :=
  [("abs", ⟨1, some 1⟩), ("coalesce", ⟨2, none⟩), ("length", ⟨1, some 1⟩), ("lower", ⟨1, some 1⟩),
   ("round", ⟨1, some 2⟩), ("substr", ⟨2, some 3⟩), ("trim", ⟨1, some 1⟩), ("upper", ⟨1, some 1⟩)]

def function? (name : String) : Option (String × Arity) :=
  functions.find? fun function => function.1 == Text.lower name

def arityOf? (name : String) : Option Arity :=
  (function? name).map Prod.snd

inductive TextFunction where
  | casei | accenti | lower | upper
  deriving DecidableEq, Repr

namespace TextFunction

def keyword : TextFunction → String
  | .casei => "CASEI"
  | .accenti => "ACCENTI"
  | .lower => "LOWER"
  | .upper => "UPPER"

def all : List TextFunction :=
  [.casei, .accenti, .lower, .upper]

end TextFunction

end Cql.Sql
