import Cql.Sql.Dialect
import Cql.Temporal.Condition
import Cql.Compile.LiteralPlacement
import Cql.Compile.Queryables
import Cql.Compile.State
import Cql.Tree.Node

/-!
# What each rule does to the operands

When a part of a filter has been walked, its rule decides what becomes of the operands that its
parts left: a leaf adds an operand, an inner node combines operands, and most nodes leave them as
they are.
-/

namespace Cql

open Cql.Sql Cql.Temporal

/-- How to compile: the target, the properties that may be used, the treatment of literals, and
the source of parameter names. -/
structure Setting where
  dialect : Dialect
  queryables : Queryables := .unrestricted
  literals : LiteralPlacement := {}
  draws : Draws := Draws.sequential

inductive Action where
  /-- Nothing. -/
  | keep
  /-- Adds an operand. -/
  | push (operand : Operand)
  /-- Binds a value and adds the operand made of its placeholder. -/
  | bind (value : String) (wrap : Fragment → Operand)
  /-- Replaces the top operands by one. -/
  | combine (count : Nat) (result : List Operand → Operand)
  /-- Gives up. -/
  | refuse (reason : CompileError)

namespace Action

def combine1 (result : Operand → Operand) : Action :=
  .combine 1 fun
    | [operand] => result operand
    | _ => .blank

def combine2 (result : Operand → Operand → Operand) : Action :=
  .combine 2 fun
    | [first, second] => result first second
    | _ => .blank

def combine4 (result : Operand → Operand → Operand → Operand → Operand) : Action :=
  .combine 4 fun
    | [first, second, third, fourth] => result first second third fourth
    | _ => .blank

end Action

/-- The operand as a period of time. What is missing reaches over all of time. -/
def Sql.Dialect.period (dialect : Dialect) : Operand → Period
  | .interval first last => .interval first last
  | .openEnd => .unbounded
  | .expr sql _ => if sql.render.isEmpty then .unbounded else .instant sql
  | other => .instant (dialect.value other)

def Sql.Dialect.limit? (dialect : Dialect) : Operand → Option Fragment
  | .openEnd => none
  | other => some (dialect.value other)

namespace Node

/-- The text of the first child made by the given rule; empty when there is none. -/
def textOf (node : Node) (rule : Rule) : String :=
  ((node.child? rule).map Node.text).getD ""

def negation (node : Node) : String :=
  if node.includes (.keyword .not) then "NOT " else ""

def textFunction? (node : Node) : Option TextFunction :=
  node.children.findSome? fun child =>
    match child.rule with
    | .keyword .casei => some .casei
    | .keyword .accenti => some .accenti
    | .keyword .lower => some .lower
    | .keyword .upper => some .upper
    | _ => none

def calledName (node : Node) : String :=
  Identifier.unquote (node.textOf .identifier)

def argumentCount (node : Node) : Nat :=
  ((node.child? .argumentList).map fun list => list.children.length).getD 0

end Node

namespace Setting

def scalar (placement : Placement) (bound inlined : String) : Action :=
  match placement with
  | .bound => .bind bound fun placeholder => .scalar placeholder true
  | .inline => .push (.scalar inlined false)

def chain (setting : Setting) (count : Nat) (connective : String) : Action :=
  if count < 2 then .keep
  else .combine count fun operands =>
    .closed (Fragment.bracketed (Fragment.joined connective (operands.map setting.dialect.value)))

def cannotExpress (setting : Setting) (construct : String) : Action :=
  .refuse (.inexpressible construct setting.dialect.name)

def comparison (setting : Setting) (node : Node) : Action :=
  let operator := ((node.child? .comparisonOperator).map Node.text).getD "="
  .combine 2 fun operands =>
    match setting.dialect.comparedValues operands with
    | [left, right] => .loose (left ++ (" " ++ operator ++ " ") ++ right)
    | _ => .blank

def between (setting : Setting) (node : Node) : Action :=
  .combine 3 fun operands =>
    match setting.dialect.comparedValues operands with
    | [value, low, high] =>
        .closed (Fragment.bracketed
          (value ++ (" " ++ node.negation ++ "BETWEEN ") ++ low ++ " AND " ++ high))
    | _ => .blank

def inList (setting : Setting) (node : Node) : Action :=
  .combine (node.count .scalarExpression) fun operands =>
    match setting.dialect.comparedValues operands with
    | value :: items =>
        .closed (Fragment.bracketed (value ++ (" " ++ node.negation ++ "IN ")
          ++ Fragment.bracketed (Fragment.joined ", " items)))
    | [] => .blank

/-- A call of a text function; a plain text is left as it is. -/
def characterCall (setting : Setting) (node : Node) : Action :=
  match node.textFunction? with
  | none => .keep
  | some function =>
      match setting.dialect.textFunction? function with
      | none => setting.cannotExpress function.keyword
      | some name =>
          .combine1 fun operand => .loose (Fragment.call name [setting.dialect.value operand])

def property (setting : Setting) (node : Node) : Action :=
  let name := Identifier.unquote node.text
  if setting.queryables.admits name then .push (.column [.column name])
  else .refuse (.forbiddenProperty name)

def boolean (setting : Setting) (node : Node) : Action :=
  let value := Text.sameWord node.text "true"
  scalar setting.literals.truthValues (setting.dialect.truthText value)
    (if value then "TRUE" else "FALSE")

/-- A call of a function. Where a function has no arity, any number of arguments will do. -/
def functionCall (setting : Setting) (node : Node) : Action :=
  let name := node.calledName
  let count := node.argumentCount
  match setting.dialect.sqlFunction? name with
  | none => .refuse (.unknownFunction name setting.dialect.name)
  | some function =>
      let call := .combine count fun operands =>
        .loose (Fragment.call function (operands.map setting.dialect.value))
      match arityOf? name with
      | none => call
      | some arity =>
          if arity.admits count then call
          else .refuse (.argumentCount name arity.describe count)

def geometry (node : Node) : Action :=
  .bind node.text fun placeholder => .loose (Dialect.geometryOf placeholder)

def spatial (setting : Setting) (node : Node) : Action :=
  let name := node.textOf .spatialFunction
  match SpatialRelation.ofKeyword? name with
  | none => setting.cannotExpress name
  | some relation => .combine2 fun left right =>
      setting.dialect.relateGeometries relation (setting.dialect.value left)
        (setting.dialect.value right)

/-- A date or a point in time that is read from the text before it; anything else is left as it
is. -/
def instant (setting : Setting) (node : Node) : Action :=
  if node.includes (.keyword .date) || node.includes .dateString then
    .combine1 fun operand => .loose (setting.dialect.dateOf (setting.dialect.value operand))
  else if node.includes (.keyword .timestamp) || node.includes .timestampString then
    .combine1 fun operand => .loose (setting.dialect.momentOf (setting.dialect.value operand))
  else .keep

def temporal (setting : Setting) (node : Node) : Action :=
  let name := node.textOf .temporalFunction
  match TemporalRelation.ofKeyword? name with
  | none => setting.cannotExpress name
  | some relation => .combine2 fun left right =>
      let condition := relate relation (setting.dialect.period left) (setting.dialect.period right)
      .expr condition.render condition.settled?.isNone

def arrays (setting : Setting) (node : Node) : Action :=
  let name := node.textOf .arrayFunction
  match ArrayRelation.ofKeyword? name with
  | none => setting.cannotExpress name
  | some relation => .combine2 fun left right =>
      .closed (setting.dialect.relateArrays relation (setting.dialect.value left)
        (setting.dialect.value right))

/-- What a node does to the operands; `inCollection` says that it is part of a geometry
collection. -/
def action (setting : Setting) (inCollection : Bool) (node : Node) : Action :=
  let dialect := setting.dialect
  match node.rule with
  | .cqlFilter => .combine1 fun operand => .closed (dialect.closedValue operand)
  | .booleanExpression => setting.chain (node.count .booleanTerm) " OR "
  | .booleanTerm => setting.chain (node.count .booleanFactor) " AND "
  | .booleanFactor =>
      if node.includes (.keyword .not) then
        .combine1 fun operand => .loose ("NOT " ++ dialect.closedValue operand)
      else .keep
  | .booleanPrimary =>
      if node.includes .booleanExpression then
        .combine1 fun operand =>
          if operand.isClosed then operand else .closed (dialect.closedValue operand)
      else .keep
  | .binaryComparisonPredicate => setting.comparison node
  | .isLikePredicate => .combine2 fun left right =>
      .closed (Fragment.bracketed
        (dialect.value left ++ (" " ++ node.negation ++ "LIKE ") ++ dialect.value right))
  | .isBetweenPredicate => setting.between node
  | .isInListPredicate => setting.inList node
  | .isNullPredicate => .combine1 fun operand =>
      .closed (Fragment.bracketed
        (dialect.value operand ++ (" IS " ++ node.negation ++ "NULL")))
  | .characterClause | .patternExpression => setting.characterCall node
  | .propertyName => setting.property node
  | .characterLiteral => .bind node.text .loose
  | .numericLiteral | .westBoundLon | .southBoundLat | .eastBoundLon | .northBoundLat =>
      scalar setting.literals.numbers node.text node.text
  | .booleanLiteral => setting.boolean node
  | .function => setting.functionCall node
  | .geometryLiteral | .geometryCollection => if inCollection then .keep else geometry node
  | .bbox => .combine4 fun west south east north =>
      .loose (dialect.rectangle (dialect.value west) (dialect.value south) (dialect.value east)
        (dialect.value north))
  | .spatialPredicate => setting.spatial node
  | .dateString | .timestampString => .bind (Text.stripBoth (· == '\'') node.text) .loose
  | .instantInstance | .intervalParameter => setting.instant node
  | .now => .push (.loose dialect.present)
  | .dotDotString => .push .openEnd
  | .interval => .combine2 fun first last =>
      .interval (dialect.limit? first) (dialect.limit? last)
  | .temporalPredicate => setting.temporal node
  | .arrayClause => .combine (node.count .arrayElement) fun operands =>
      .loose (dialect.arrayOf (operands.map dialect.value))
  | .arrayPredicate => setting.arrays node
  | _ => .keep

end Setting

end Cql
