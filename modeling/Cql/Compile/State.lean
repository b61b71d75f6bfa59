import Cql.Sql.Operand
import Cql.Compile.Error
import Cql.Compile.ParameterName
import Cql.Compile.Queryables

/-!
# The state of a compilation

A compilation keeps a stack of operands, the parameters bound so far, and the first thing that went
wrong. At the end one operand has to be left, and it has to be a condition.
-/

namespace Cql

open Cql.Sql

abbrev Parameters := List (String × String)

structure SqlFilter where
  sql : String := ""
  params : Parameters := []
  deriving DecidableEq, Repr

namespace SqlFilter

def isEmpty (filter : SqlFilter) : Bool :=
  filter.sql.isEmpty

end SqlFilter

structure Compilation where
  stack : Stack := []
  params : Parameters := []
  /-- How many random numbers were drawn. -/
  drawn : Nat := 0
  /-- What went wrong first. -/
  failure : Option CompileError := none
  /-- How many geometry collections are open; their members are not bound one by one. -/
  collectionDepth : Nat := 0
  deriving DecidableEq, Repr

def occursIn (text : List Char) : List Char → Bool
  | [] => text.isEmpty
  | c :: cs => text.isPrefixOf (c :: cs) || occursIn text cs

namespace Compilation

def hasFailed (state : Compilation) : Bool :=
  state.failure.isSome

/-- Notes that something went wrong; only the first reason is kept. -/
def fail (reason : CompileError) (state : Compilation) : Compilation :=
  { state with failure := state.failure.orElse fun _ => some reason }

def push (operand : Operand) (state : Compilation) : Compilation :=
  { state with stack := operand :: state.stack }

def pop (state : Compilation) : Operand × Compilation :=
  let (top, below) := state.stack.pop
  (top, { state with stack := below })

def splitTop (n : Nat) (state : Compilation) : List Operand × Compilation :=
  let (taken, below) := state.stack.splitTop n
  (taken, { state with stack := below })

def isBound (state : Compilation) (name : String) : Bool :=
  state.params.any fun param => param.1 == name

def bind (sigil : Char) (draws : Draws) (value : String) (state : Compilation) :
    Fragment × Compilation :=
  match ParameterName.fresh state.isBound draws state.drawn with
  | (some name, drawn) =>
      ([.placeholder sigil name], { state with params := state.params ++ [(name, value)], drawn })
  | (none, drawn) =>
      ([], { state with drawn }.fail (.fault "bound parameter names exhausted"))

/-- Whether a property may be used; that it may not is noted as what went wrong. -/
def require (queryables : Queryables) (property : String) (state : Compilation) :
    Bool × Compilation :=
  if queryables.admits property then (true, state)
  else (false, state.fail (.forbiddenProperty property))

/-- The parameters whose placeholders stand in the SQL. Conditions that were settled beforehand
leave others behind. -/
def usedParams (sigil : Char) (sql : String) (params : Parameters) : Parameters :=
  params.filter fun param => occursIn (sigil :: param.1.toList) sql.toList

def result (sigil : Char) (state : Compilation) : Except CompileError SqlFilter :=
  match state.failure with
  | some reason => .error reason
  | none =>
      match state.stack with
      | [.expr sql _] =>
          let sql := sql.render
          .ok { sql, params := usedParams sigil sql state.params }
      | [other] =>
          .error (.fault ("translation ended with a non-boolean operand: " ++ other.describe))
      | stack =>
          .error (.fault
            s!"expected one SQL fragment after translation, found {stack.length}")

end Compilation

end Cql
