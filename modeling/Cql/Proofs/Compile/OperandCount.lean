import Cql.Proofs.Grammar.Derivation
import Cql.Proofs.Vocabulary
import Mathlib.Algebra.Ring.Nat

/-!
# How many operands a node leaves

Every action counts on a number of operands from the children of its node. Which children leave an
operand is settled by the grammar, far from the action. This module brings the two together: in
every tree that agrees with the grammar, each node finds exactly the operands that its action takes.
-/

namespace Cql

open Cql.Grammar

/-- How many operands a node of the rule leaves. The rule alone does not tell for a list of
arguments, which leaves one for each of them. -/
def Rule.operandCount? : Rule → Option Nat
  | .cqlFilter | .booleanExpression | .booleanTerm | .booleanFactor | .booleanPrimary
  | .predicate | .comparisonPredicate | .binaryComparisonPredicate | .isLikePredicate
  | .isBetweenPredicate | .isInListPredicate | .isNullPredicate | .isNullOperand
  | .scalarExpression | .characterExpression | .patternExpression | .characterClause
  | .numericExpression | .characterLiteral | .numericLiteral | .booleanLiteral | .propertyName
  | .spatialPredicate | .geomExpression | .spatialInstance | .geometryLiteral
  | .geometryCollection | .bbox | .westBoundLon | .eastBoundLon | .northBoundLat | .southBoundLat
  | .temporalPredicate | .temporalExpression | .temporalClause | .instantInstance | .now
  | .interval | .intervalParameter | .dateString | .timestampString | .dotDotString
  | .arrayPredicate | .arrayExpression | .arrayClause | .arrayElement | .function
  | .argument => some 1
  | .argumentList => none
  | _ => some 0

/-- Whether a node of the rule leaves exactly one operand. -/
def Rule.isOperand (rule : Rule) : Bool :=
  rule.operandCount? == some 1

namespace Node

def operandCount (node : Node) : Nat :=
  node.rule.operandCount?.getD node.children.length

def partCount (node : Node) : Nat :=
  (node.children.map operandCount).sum

theorem operandCount_of_rule {node : Node} {n : Nat} (fixed : node.rule.operandCount? = some n) :
    node.operandCount = n := by
  rw [operandCount, fixed, Option.getD_some]

theorem partCount_eq_count {node : Node} {member : Rule} (one : member.operandCount? = some 1)
    (others : ∀ child ∈ node.children, child.rule = member ∨ child.rule.operandCount? = some 0) :
    node.partCount = node.count member := by
  rw [partCount, count]
  generalize node.children = children at others
  induction children with
  | nil => rfl
  | cons child children ih =>
      have rest := ih fun other among => others other (List.mem_cons_of_mem _ among)
      rw [List.map_cons, List.sum_cons, rest, List.countP_cons, Nat.add_comm]
      congr 1
      rcases others child (List.mem_cons_self ..) with same | without
      · rw [operandCount_of_rule (same ▸ one), if_pos (beq_iff_eq.2 same)]
      · have differs : child.rule ≠ member := by
          rintro rfl
          rw [without] at one
          cases one
        rw [operandCount_of_rule without, if_neg (fun same => differs (beq_iff_eq.1 same))]

theorem includes_iff {node : Node} {rule : Rule} :
    node.includes rule = true ↔ rule ∈ node.children.map Node.rule := by
  simp [includes]

theorem count_eq (node : Node) (rule : Rule) :
    node.count rule = (node.children.map Node.rule).count rule := by
  simp [count, List.count, List.countP_map, Function.comp_def]

theorem textFunction?_eq (node : Node) :
    node.textFunction? = (node.children.map Node.rule).findSome? fun rule =>
      match rule with
      | .keyword .casei => some .casei
      | .keyword .accenti => some .accenti
      | .keyword .lower => some .lower
      | .keyword .upper => some .upper
      | _ => none := by
  rw [List.findSome?_map]
  rfl

end Node

namespace Grammar.Phrase

/-- How many operands the nodes of the phrase leave together, when it is always the same number. -/
def operandCount? : Phrase → Option Nat
  | .start | .symbol _ | .text _ => some 0
  | .ref rule => rule.operandCount?
  | .seq first second | .join first second => do
      return (← first.operandCount?) + (← second.operandCount?)
  | .alt first second =>
      if first.operandCount? = second.operandCount? then first.operandCount? else none
  | .opt inner | .again inner => if inner.operandCount? = some 0 then some 0 else none

theorem sum_operandCount {phrase : Phrase} {nodes : List Node} {n : Nat}
    (spelled : phrase.Spells (nodes.map Node.rule)) (fixed : phrase.operandCount? = some n) :
    (nodes.map Node.operandCount).sum = n := by
  induction phrase generalizing nodes n with
  | start | symbol _ | text _ => simp_all [Spells, operandCount?]
  | ref rule =>
      obtain ⟨node, rfl, rfl⟩ := List.map_eq_singleton_iff.1 spelled
      simp [Node.operandCount_of_rule fixed]
  | seq first second ihFirst ihSecond | join first second ihFirst ihSecond =>
      obtain ⟨xs, ys, one, two, parts⟩ := spelled
      obtain ⟨left, right, rfl, rfl, rfl⟩ := List.map_eq_append_iff.1 parts
      simp only [operandCount?, Option.bind_eq_bind, Option.bind_eq_some_iff, Option.pure_def,
        Option.some.injEq] at fixed
      obtain ⟨a, fixedFirst, b, fixedSecond, rfl⟩ := fixed
      rw [List.map_append, List.sum_append, ihFirst one fixedFirst, ihSecond two fixedSecond]
  | alt first second ihFirst ihSecond =>
      simp only [operandCount?] at fixed
      split at fixed
      · next same =>
          rcases spelled with one | two
          · exact ihFirst one fixed
          · exact ihSecond two (same ▸ fixed)
      · cases fixed
  | opt inner ih =>
      simp only [operandCount?] at fixed
      split at fixed
      · next without =>
          cases fixed
          rcases spelled with nothing | one
          · rw [List.map_eq_nil_iff.1 nothing, List.map_nil, List.sum_nil]
          · exact ih one without
      · cases fixed
  | again inner ih =>
      simp only [operandCount?] at fixed
      split at fixed
      · next without =>
          cases fixed
          obtain ⟨rounds, all, whole⟩ := spelled
          induction rounds generalizing nodes with
          | nil => rw [List.map_eq_nil_iff.1 whole, List.map_nil, List.sum_nil]
          | cons round rounds rest =>
              obtain ⟨left, right, rfl, rfl, parts⟩ := List.map_eq_append_iff.1 whole
              rw [List.map_append, List.sum_append, ih (all _ (by simp)) without,
                rest (fun other member => all other (List.mem_cons_of_mem _ member)) parts]
      · cases fixed

end Grammar.Phrase

/-- The action takes `parts` operands and leaves `left` of them. -/
def Action.Fits (action : Action) (parts left : Nat) : Prop :=
  match action with
  | .keep => parts = left
  | .push _ => parts = 0 ∧ left = 1
  | .bind _ _ => parts = 0 ∧ left = 1
  | .combine count _ => parts = count ∧ left = 1
  | .refuse _ => True

namespace Node.Formed

/-- The children of a node leave as many operands as the phrase of its rule says. -/
theorem partCount_eq {node : Node} {body : Phrase} {n : Nat} (formed : node.Formed)
    (defined : definition node.rule = .phrase body) (fixed : body.operandCount? = some n) :
    node.partCount = n :=
  Phrase.sum_operandCount (formed.spelled defined) fixed

theorem partCount_of_token {node : Node} {pattern : Pattern} (formed : node.Formed)
    (defined : definition node.rule = .token pattern) : node.partCount = 0 := by
  rw [partCount, formed.children_of_token defined, List.map_nil, List.sum_nil]

theorem partCount_of_members {node : Node} {body : Phrase} {member : Rule} (formed : node.Formed)
    (defined : definition node.rule = .phrase body) (one : member.operandCount? = some 1)
    (others : ∀ rule ∈ body.mentions, rule = member ∨ rule.operandCount? = some 0) :
    node.partCount = node.count member :=
  partCount_eq_count one fun _ among => others _ (formed.rule_of_child defined among)

theorem count_pos_of_chain {node : Node} {word : Keyword} {member : Rule} (formed : node.Formed)
    (defined : definition node.rule = .phrase (.ref member ++ .many (.kw word ++ .ref member))) :
    0 < node.count member := by
  obtain ⟨_, _, rfl, more, shape⟩ := formed.spelled defined
  rw [count_eq, shape]
  exact List.count_pos_iff.2 (List.mem_append_left _ (List.mem_singleton_self member))

theorem partCount_of_argumentList {node : Node} (formed : node.Formed)
    (listed : node.rule = .argumentList) : node.partCount = node.operandCount := by
  have defined : definition node.rule =
      .phrase (.bracketed (.opt (.listed (.ref .argument)))) := by
    rw [listed]
    rfl
  have only : ∀ rule ∈ (Phrase.bracketed (.opt (.listed (.ref .argument)))).mentions,
      rule = .argument := by decide
  have every : ∀ child ∈ node.children, child.rule = .argument := fun child among =>
    only _ (formed.rule_of_child defined among)
  rw [partCount_eq_count rfl fun child among => .inl (every child among), operandCount, listed,
    count, List.countP_eq_length.2 fun child among => beq_iff_eq.2 (every child among)]
  rfl

theorem children_of_function {node : Node} (formed : node.Formed) (called : node.rule = .function) :
    ∃ name arguments, node.children = [name, arguments] ∧ name.rule = .identifier ∧
      arguments.rule = .argumentList := by
  have defined : definition node.rule = .phrase (.ref .identifier ++ .ref .argumentList) := by
    rw [called]
    rfl
  obtain ⟨_, _, rfl, rfl, shape⟩ := formed.spelled defined
  obtain ⟨name, rest, children, named, tail⟩ := List.map_eq_cons_iff.1 shape
  obtain ⟨arguments, rfl, listed⟩ := List.map_eq_singleton_iff.1 tail
  exact ⟨name, arguments, children, named, listed⟩

theorem partCount_of_function {node : Node} (formed : node.Formed)
    (called : node.rule = .function) :
    node.partCount = node.argumentCount := by
  obtain ⟨name, arguments, shape, named, listed⟩ := formed.children_of_function called
  have nameless : name.operandCount = 0 := operandCount_of_rule (by rw [named]; rfl)
  have each : arguments.operandCount = arguments.children.length := by
    rw [operandCount, listed]
    rfl
  simp [partCount, argumentCount, child?, shape, nameless, each, named, listed]

end Node.Formed

namespace Setting

theorem scalar_fits (placement : Placement) (bound inlined : String) :
    (scalar placement bound inlined).Fits 0 1 := by
  cases placement <;> exact ⟨rfl, rfl⟩

theorem chain_fits (setting : Setting) {count : Nat} (connective : String) (positive : 0 < count) :
    (setting.chain count connective).Fits count 1 := by
  unfold chain
  split
  · next few => exact Nat.le_antisymm (Nat.le_of_lt_succ few) positive
  · exact ⟨rfl, rfl⟩

theorem characterCall_fits (setting : Setting) (node : Node) :
    (setting.characterCall node).Fits 1 1 := by
  unfold characterCall
  split
  · rfl
  · split
    · trivial
    · exact ⟨rfl, rfl⟩

theorem functionCall_fits (setting : Setting) {node : Node} (formed : node.Formed)
    (called : node.rule = .function) : (setting.functionCall node).Fits node.partCount 1 := by
  rw [formed.partCount_of_function called]
  rcases setting.functionCall_cases node with ⟨_, refused⟩ | ⟨function, arity, _, _, counted⟩
  · rw [refused]
    trivial
  · rw [counted]
    split
    · exact ⟨rfl, rfl⟩
    · trivial

theorem instant_fits (setting : Setting) (node : Node) : (setting.instant node).Fits 1 1 := by
  unfold instant
  split
  · exact ⟨rfl, rfl⟩
  · split
    · exact ⟨rfl, rfl⟩
    · rfl

theorem action_collection (setting : Setting) {node : Node}
    (collection : node.rule = .geometryCollection) :
    setting.action false node = geometry node := by
  simp [action, collection]

theorem geometry_fits (node : Node) : (geometry node).Fits 0 1 :=
  ⟨rfl, rfl⟩

/-- Every node finds the operands that its action takes, and the action leaves as many as the node
is said to. The members of a geometry collection are left aside. -/
theorem action_fits (setting : Setting) {node : Node} (formed : node.Formed)
    (single : node.rule ≠ .geometryCollection) :
    (setting.action false node).Fits node.partCount node.operandCount := by
  obtain ⟨rule, offset, text, children⟩ := node
  cases rule with
  | cqlFilter | isNullPredicate | binaryComparisonPredicate | isLikePredicate
  | isBetweenPredicate | bbox | interval =>
      rw [formed.partCount_eq rfl rfl]
      exact ⟨rfl, rfl⟩
  | predicate | comparisonPredicate | isNullOperand | scalarExpression | characterExpression
  | numericExpression | geomExpression | spatialInstance | temporalExpression | temporalClause
  | arrayExpression | arrayElement | argument =>
      rw [formed.partCount_eq rfl rfl]
      rfl
  | point | linestring | linestringDef | polygon | polygonDef | multiPoint | multiLinestring
  | multiPolygon | coordinate =>
      rw [formed.partCount_eq rfl rfl]
      rfl
  | geometryLiteral =>
      rw [formed.partCount_eq rfl rfl]
      exact geometry_fits _
  | now =>
      rw [formed.partCount_eq rfl rfl]
      exact ⟨rfl, rfl⟩
  | booleanFactor | booleanPrimary =>
      rw [formed.partCount_eq rfl rfl]
      simp only [action]
      split
      · exact ⟨rfl, rfl⟩
      · rfl
  | characterClause | patternExpression =>
      rw [formed.partCount_eq rfl rfl]
      exact setting.characterCall_fits _
  | instantInstance | intervalParameter =>
      rw [formed.partCount_eq rfl rfl]
      exact setting.instant_fits _
  | propertyName =>
      rw [formed.partCount_eq rfl rfl]
      simp only [action, property]
      split
      · exact ⟨rfl, rfl⟩
      · trivial
  | spatialPredicate =>
      rw [formed.partCount_eq rfl rfl]
      simp only [action, spatial]
      split
      · trivial
      · exact ⟨rfl, rfl⟩
  | temporalPredicate =>
      rw [formed.partCount_eq rfl rfl]
      simp only [action, temporal]
      split
      · trivial
      · exact ⟨rfl, rfl⟩
  | arrayPredicate =>
      rw [formed.partCount_eq rfl rfl]
      simp only [action, arrays]
      split
      · trivial
      · exact ⟨rfl, rfl⟩
  | characterLiteral | dateString | timestampString | dotDotString =>
      rw [formed.partCount_of_token rfl]
      exact ⟨rfl, rfl⟩
  | numericLiteral | westBoundLon | southBoundLat | eastBoundLon | northBoundLat
  | booleanLiteral =>
      rw [formed.partCount_of_token rfl]
      exact scalar_fits _ _ _
  | comparisonOperator | identifier | spatialFunction | temporalFunction | arrayFunction
  | xCoord | yCoord | zCoord | minElev | maxElev | keyword | endOfInput =>
      rw [formed.partCount_of_token rfl]
      rfl
  | booleanExpression =>
      have members : Node.partCount _ = Node.count _ .booleanTerm :=
        formed.partCount_of_members rfl rfl (by decide)
      rw [members]
      exact setting.chain_fits " OR " (formed.count_pos_of_chain rfl)
  | booleanTerm =>
      have members : Node.partCount _ = Node.count _ .booleanFactor :=
        formed.partCount_of_members rfl rfl (by decide)
      rw [members]
      exact setting.chain_fits " AND " (formed.count_pos_of_chain rfl)
  | isInListPredicate | arrayClause =>
      exact ⟨formed.partCount_of_members rfl rfl (by decide), rfl⟩
  | argumentList => exact formed.partCount_of_argumentList rfl
  | function => exact setting.functionCall_fits formed rfl
  | geometryCollection => exact absurd rfl single
  | whiteSpace | number | quotedIdentifier | bareIdentifier | identifierStart | identifierPart
  | fullDate | utcTime | anyKeyword =>
      cases formed with
      | token defined taken => cases defined
      | phrase defined spelled inner => cases defined

end Setting

end Cql
