import Cql.Filter.Parse
import Cql.Compile.Action

/-!
# Compiling a filter

A filter is read, and its syntax tree is walked from left to right. Every node acts on the operands
once its children have been walked, so that a complete walk leaves one operand: the filter in SQL.
-/

namespace Cql

open Cql.Sql

namespace Setting

def perform (setting : Setting) (action : Action) (state : Compilation) : Compilation :=
  match action with
  | .keep => state
  | .push operand => state.push operand
  | .bind value wrap =>
      let (placeholder, state) := state.bind setting.dialect.sigil setting.draws value
      state.push (wrap placeholder)
  | .combine count result =>
      let (operands, state) := state.splitTop count
      state.push (result operands)
  | .refuse reason => state.fail reason

def enter (node : Node) (state : Compilation) : Compilation :=
  if node.rule = .geometryCollection then
    { state with collectionDepth := state.collectionDepth + 1 }
  else state

/-- What happens after the children of a node were walked. Once something went wrong, operands are
left alone. -/
def leave (setting : Setting) (node : Node) (state : Compilation) : Compilation :=
  let state :=
    if node.rule = .geometryCollection then
      { state with collectionDepth := state.collectionDepth - 1 }
    else state
  if state.hasFailed then state
  else setting.perform (setting.action (state.collectionDepth != 0) node) state

mutual

def walk (setting : Setting) : Node → Compilation → Compilation
  | ⟨rule, offset, text, children⟩, state =>
      let node : Node := ⟨rule, offset, text, children⟩
      setting.leave node (setting.walkAll children (enter node state))

def walkAll (setting : Setting) : List Node → Compilation → Compilation
  | [], state => state
  | node :: nodes, state => setting.walkAll nodes (setting.walk node state)

end

def compileTree (setting : Setting) (tree : Node) : Except CompileError SqlFilter :=
  (setting.walk tree {}).result setting.dialect.sigil

/-- The SQL of a filter. A blank filter admits everything and has no SQL. -/
def compile (setting : Setting) (filter : String) : Except CompileError SqlFilter :=
  if Text.isBlank filter then .ok {}
  else
    match Filter.parse filter with
    | .error errors => .error (.malformed errors)
    | .ok tree => setting.compileTree tree

end Setting

end Cql
