import Cql.Proofs.Compile.OperandUse
import Cql.Proofs.Grammar.Depth

/-!
# Operands of comparisons

A number in a filter has no type of its own for the database, but the column that it is compared
with has one. Whether there is such a column can be read off the tree: the first operand of a
comparison is compared with all others. As every node of a tree has one parent, it is enough to look
at the comparison that the number is an operand of.
-/

namespace Cql

open Cql.Grammar

def Rule.isExpression : Rule → Bool
  | .scalarExpression | .numericExpression => true
  | _ => false

/-- Whether the rule is that of a term that can be compared: a number or a truth value, SQL text
that is made of something, or a property. -/
def Rule.isTerm (rule : Rule) : Bool :=
  !rule.isExpression &&
    (rule.isScalar || rule.isText && !rule.isLiteral || rule == .propertyName)

theorem Rule.isLiteral_of_isScalar {rule : Rule} (scalar : rule.isScalar = true) :
    rule.isLiteral = true := by
  cases rule <;> first | rfl | cases scalar

theorem Rule.operandCount?_of_isExpression {rule : Rule} (expression : rule.isExpression = true) :
    rule.operandCount? = some 1 := by
  cases rule <;> first | rfl | cases expression

/-! ## The parts of comparisons -/

theorem isTerm_definition (rule : Rule) :
    (!rule.isExpression || match definition rule with
      | .phrase body => body.mentions.all Rule.isTerm
      | _ => true) = true := by
  cases rule <;> rfl

theorem isComparison_definition (rule : Rule) :
    (!rule.isComparison || match definition rule with
      | .phrase body =>
          body.mentions.all fun part => part.isExpression || part.operandCount? == some 0
      | _ => true) = true := by
  cases rule <;> rfl

theorem isExpression_definition (rule : Rule) :
    (rule.isComparison || match definition rule with
      | .phrase body => body.mentions.all fun part => !part.isExpression
      | _ => true) = true := by
  cases rule <;> rfl

namespace Node.Formed

variable {node child : Node} (formed : node.Formed)
include formed

theorem isTerm_of_child (kind : node.rule.isExpression = true) (among : child ∈ node.children) :
    child.rule.isTerm = true := by
  have rules := isTerm_definition node.rule
  rw [kind, Bool.not_true, Bool.false_or] at rules
  exact formed.all_of_child rules among

theorem isExpression_or_of_child (compares : node.rule.isComparison = true)
    (among : child ∈ node.children) :
    child.rule.isExpression = true ∨ child.rule.operandCount? = some 0 := by
  have rules := isComparison_definition node.rule
  rw [compares, Bool.not_true, Bool.false_or] at rules
  simpa using formed.all_of_child rules among

theorem isExpression_of_child (apart : node.rule.isComparison = false)
    (among : child ∈ node.children) : child.rule.isExpression = false := by
  have rules := isExpression_definition node.rule
  rw [apart, Bool.false_or] at rules
  simpa using formed.all_of_child rules among

/-- An operand of a comparison is a single term. -/
theorem children_of_isExpression (kind : node.rule.isExpression = true) :
    ∃ child, node.children = [child] := by
  have single {rule : Rule} (shape : node.children.map Node.rule = [rule]) :
      ∃ child, node.children = [child] := by
    obtain ⟨child, only, _⟩ := List.map_eq_singleton_iff.1 shape
    exact ⟨child, only⟩
  generalize known : node.rule = rule at kind
  cases rule with
  | scalarExpression =>
      have spelled := formed.spelled (show definition node.rule
        = .phrase (Rule.characterClause <|> Rule.numericLiteral <|> Rule.instantInstance
          <|> Rule.booleanLiteral <|> Phrase.functionOrProperty) by rw [known]; rfl)
      rcases spelled with shape | shape | shape | shape | shape | shape <;> exact single shape
  | numericExpression =>
      have spelled := formed.spelled (show definition node.rule
        = .phrase (Rule.numericLiteral <|> Phrase.functionOrProperty) by rw [known]; rfl)
      rcases spelled with shape | shape | shape <;> exact single shape
  | _ => cases kind

theorem filled_of_isScalar (scalar : node.rule.isScalar = true) :
    0 < Text.byteSize node.text.toList := by
  have filled : node.text.toList ≠ [] := by
    obtain ⟨rule, offset, text, children⟩ := node
    cases rule with
    | numericLiteral | westBoundLon | southBoundLat | eastBoundLon | northBoundLat
    | booleanLiteral => exact Pattern.ne_nil_of_takes (formed.taken rfl) (by decide)
    | _ => cases scalar
  exact Nat.lt_of_lt_of_le (List.length_pos_iff.2 filled) (Text.length_le_byteSize _)

end Node.Formed

/-! ## Numbers beside columns -/

namespace Node

def comparands (node : Node) : List Node :=
  node.children.flatMap fun child => if child.rule.isExpression then child.children else []

/-- In the comparison the literal is the first operand and another one is a property, or it is
another operand and the first one is a property. -/
def ComparesWithColumn (comparison literal : Node) : Prop :=
  ∃ first others, comparison.comparands = first :: others ∧
    (literal = first ∧ (∃ other ∈ others, other.rule = .propertyName) ∨
      literal ∈ others ∧ first.rule = .propertyName)

/-- Some comparison in the tree compares the literal with a column. -/
def BesideColumn (tree literal : Node) : Prop :=
  ∃ comparison ∈ tree.preorder, comparison.rule.isComparison = true ∧
    comparison.ComparesWithColumn literal

theorem mem_comparands {node comparand : Node} :
    comparand ∈ node.comparands ↔
      ∃ child ∈ node.children, child.rule.isExpression = true ∧ comparand ∈ child.children := by
  rw [comparands, List.mem_flatMap]
  refine exists_congr fun child => and_congr_right fun _ => ?_
  split
  · next expression => rw [and_iff_right expression]
  · next other => exact iff_of_false List.not_mem_nil fun both => other both.1

theorem ComparesWithColumn.mem_comparands {comparison literal : Node}
    (compares : comparison.ComparesWithColumn literal) : literal ∈ comparison.comparands := by
  obtain ⟨first, others, split, ⟨rfl, _⟩ | ⟨among, _⟩⟩ := compares
  · rw [split]
    exact List.mem_cons_self ..
  · rw [split]
    exact List.mem_cons_of_mem _ among

theorem Formed.of_mem_comparands {node comparand : Node} (formed : node.Formed)
    (among : comparand ∈ node.comparands) : comparand.Formed := by
  obtain ⟨child, inside, _, deep⟩ := Node.mem_comparands.1 among
  exact (formed.children child inside).children comparand deep

variable {tree node comparison literal : Node}

/-- A literal that is a part of anything but an operand of a comparison is not compared with a
column. -/
theorem Placed.not_besideColumn (placed : tree.Placed) (below : node ∈ tree.preorder)
    (among : literal ∈ node.children) (filled : 0 < Text.byteSize literal.text.toList)
    (other : node.rule.isExpression = false) : ¬ tree.BesideColumn literal := by
  rintro ⟨comparison, here, _, compares⟩
  obtain ⟨child, inside, expression, among'⟩ := Node.mem_comparands.1 compares.mem_comparands
  obtain rfl := placed.parent_unique below (placed.mem_preorder_of_child here inside) among among'
    filled
  rw [other] at expression
  cases expression

theorem Placed.besideColumn_iff (placed : tree.Placed) (below : comparison ∈ tree.preorder)
    (compares : comparison.rule.isComparison = true) (among : literal ∈ comparison.comparands)
    (filled : 0 < Text.byteSize literal.text.toList) :
    tree.BesideColumn literal ↔ comparison.ComparesWithColumn literal := by
  refine ⟨?_, fun here => ⟨comparison, below, compares, here⟩⟩
  rintro ⟨another, below', _, there⟩
  obtain ⟨child, inside, _, deep⟩ := Node.mem_comparands.1 among
  obtain ⟨child', inside', _, deep'⟩ := Node.mem_comparands.1 there.mem_comparands
  have part := placed.mem_preorder_of_child below inside
  obtain rfl := placed.parent_unique part (placed.mem_preorder_of_child below' inside') deep deep'
    filled
  have span := (placed.of_mem_preorder part).within
    ((placed.of_mem_preorder part).mem_preorder_of_child (self_mem_preorder _) deep)
  obtain rfl := placed.parent_unique below below' inside inside' (by omega)
  exact there

theorem Placed.comparands_row (placed : comparison.Placed) :
    Row comparison.offset comparison.text.toList comparison.comparands := by
  cases placed with
  | intro _ row inner =>
      refine row.flatMap fun child among => ?_
      split
      · cases inner child among with
        | intro _ row _ => exact row
      · exact .nil _ _

theorem comparesWithColumn_first {first : Node} {others : List Node}
    (split : comparison.comparands = first :: others) (scalar : first.rule.isScalar = true) :
    comparison.ComparesWithColumn first ↔ ∃ other ∈ others, other.rule = .propertyName := by
  refine ⟨?_, fun column => ⟨first, others, split, .inl ⟨rfl, column⟩⟩⟩
  rintro ⟨_, _, same, found⟩
  cases split.symm.trans same
  rcases found with ⟨_, column⟩ | ⟨_, property⟩
  · exact column
  · rw [property] at scalar
    cases scalar

theorem comparesWithColumn_other {first : Node} {others : List Node}
    (split : comparison.comparands = first :: others) (among : literal ∈ others)
    (differs : literal ≠ first) :
    comparison.ComparesWithColumn literal ↔ first.rule = .propertyName := by
  refine ⟨?_, fun property => ⟨first, others, split, .inr ⟨among, property⟩⟩⟩
  rintro ⟨_, _, same, found⟩
  cases split.symm.trans same
  rcases found with ⟨same, _⟩ | ⟨_, property⟩
  · exact absurd same differs
  · exact property

end Node

end Cql
