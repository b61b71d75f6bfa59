import Cql.Proofs.Compile.Translation

/-!
# Literals leave no trace in SQL

A literal that is bound reaches the database beside the SQL and never in it. Two filters that differ
in such literals only therefore compile to the same SQL with the same names of parameters, or fail
for the same reason. The two translations are followed side by side: at every step they have the
same operands and the same names, whatever the values.
-/

namespace Cql

open Cql.Sql

/-- Whether the text of a node of the rule is looked at: that of operators, of names, and of the
numbers and truth values that become part of the SQL. -/
def Rule.isRead (literals : LiteralPlacement) : Rule → Bool
  | .comparisonOperator | .identifier | .propertyName | .spatialFunction | .temporalFunction
  | .arrayFunction => true
  | .numericLiteral | .westBoundLon | .southBoundLat | .eastBoundLon | .northBoundLat =>
      literals.numbers == .inline
  | .booleanLiteral => literals.truthValues == .inline
  | _ => false

namespace Node

mutual

/-- Whether two trees have the same rules in the same shape, and the same text wherever it is looked
at. -/
def alike (literals : LiteralPlacement) : Node → Node → Bool
  | ⟨rule, _, text, children⟩, ⟨rule', _, text', children'⟩ =>
      rule == rule' && (!rule.isRead literals || text == text')
        && alikeAll literals children children'

def alikeAll (literals : LiteralPlacement) : List Node → List Node → Bool
  | [], [] => true
  | node :: nodes, other :: others => alike literals node other && alikeAll literals nodes others
  | _, _ => false

end

variable {literals : LiteralPlacement} {node other : Node} {nodes others : List Node}

theorem alike_iff :
    node.alike literals other = true ↔
      node.rule = other.rule ∧ (node.rule.isRead literals = true → node.text = other.text) ∧
        alikeAll literals node.children other.children = true := by
  obtain ⟨rule, offset, text, children⟩ := node
  obtain ⟨rule', offset', text', children'⟩ := other
  simp only [alike, Bool.and_eq_true, Bool.or_eq_true, Bool.not_eq_true', beq_iff_eq]
  cases rule.isRead literals <;> simp [and_assoc]

theorem alikeAll_cons {others : List Node} :
    alikeAll literals (node :: nodes) others = true ↔
      ∃ other rest, others = other :: rest ∧ node.alike literals other = true ∧
        alikeAll literals nodes rest = true := by
  cases others with
  | nil => simp [alikeAll]
  | cons other rest =>
      rw [alikeAll, Bool.and_eq_true]
      constructor
      · rintro ⟨front, back⟩
        exact ⟨other, rest, rfl, front, back⟩
      · rintro ⟨_, _, ⟨⟩, front, back⟩
        exact ⟨front, back⟩

theorem alikeAll_nil {others : List Node} :
    alikeAll literals [] others = true ↔ others = [] := by
  cases others <;> simp [alikeAll]

/-! ## What a node asks of its children -/

theorem rules_of_alikeAll (same : alikeAll literals nodes others = true) :
    nodes.map rule = others.map rule := by
  induction nodes generalizing others with
  | nil => rw [alikeAll_nil.1 same]
  | cons node nodes ih =>
      obtain ⟨other, rest, rfl, front, back⟩ := alikeAll_cons.1 same
      rw [List.map_cons, List.map_cons, (alike_iff.1 front).1, ih back]

theorem find?_of_alikeAll (same : alikeAll literals nodes others = true) (rule : Rule) :
    (nodes.find? (fun child => child.rule == rule) = none ∧
      others.find? (fun child => child.rule == rule) = none) ∨
    ∃ child found, nodes.find? (fun child => child.rule == rule) = some child ∧
      others.find? (fun child => child.rule == rule) = some found ∧ child.rule = rule ∧
        child.alike literals found = true := by
  induction nodes generalizing others with
  | nil =>
      rw [alikeAll_nil.1 same]
      exact .inl ⟨rfl, rfl⟩
  | cons node nodes ih =>
      obtain ⟨other, rest, rfl, front, back⟩ := alikeAll_cons.1 same
      have rules := (alike_iff.1 front).1
      by_cases here : node.rule = rule
      · refine .inr ⟨node, other, ?_, ?_, here, front⟩
        · exact List.find?_cons_of_pos (beq_iff_eq.2 here)
        · exact List.find?_cons_of_pos (beq_iff_eq.2 (rules ▸ here))
      · have skip : (node.rule == rule) = false := beq_false_of_ne here
        have skipOther : (other.rule == rule) = false := rules ▸ skip
        simp only [List.find?_cons, skip, skipOther]
        exact ih back

/-- Both nodes have children of the same rules, and the same operator if they compare. -/
structure SameShape (node other : Node) : Prop where
  rules : node.children.map rule = other.children.map rule
  operator : (node.child? .comparisonOperator).map text
    = (other.child? .comparisonOperator).map text

namespace SameShape

variable (shape : SameShape node other)
include shape

theorem includes_eq (rule : Rule) : node.includes rule = other.includes rule := by
  rw [Bool.eq_iff_iff, includes_iff, includes_iff, shape.rules]

theorem count_eq (rule : Rule) : node.count rule = other.count rule := by
  rw [Node.count_eq, Node.count_eq, shape.rules]

theorem negation_eq : node.negation = other.negation := by
  rw [negation, negation, shape.includes_eq]

theorem textFunction?_eq : node.textFunction? = other.textFunction? := by
  rw [Node.textFunction?_eq, Node.textFunction?_eq, shape.rules]

end SameShape

/-- What an action may ask of its node has the same answer for both nodes. -/
structure Similar (literals : LiteralPlacement) (node other : Node) : Prop where
  rules : node.children.map rule = other.children.map rule
  childText : ∀ rule : Rule, rule.isRead literals = true →
    (node.child? rule).map text = (other.child? rule).map text
  argumentCount : node.argumentCount = other.argumentCount

theorem similar_of_alike (same : node.alike literals other = true) :
    Similar literals node other := by
  obtain ⟨_, _, children⟩ := alike_iff.1 same
  refine ⟨rules_of_alikeAll children, ?_, ?_⟩
  · intro rule read
    rw [child?, child?]
    rcases find?_of_alikeAll children rule with ⟨one, two⟩ | ⟨child, found, one, two, named, alike⟩
    · rw [one, two]
    · obtain ⟨_, text, _⟩ := alike_iff.1 alike
      rw [one, two, Option.map_some, Option.map_some, text (named ▸ read)]
  · rw [argumentCount, argumentCount, child?, child?]
    rcases find?_of_alikeAll children .argumentList with
      ⟨one, two⟩ | ⟨child, found, one, two, named, alike⟩
    · rw [one, two]
    · obtain ⟨_, _, arguments⟩ := alike_iff.1 alike
      have lengths := congrArg List.length (rules_of_alikeAll arguments)
      rw [List.length_map, List.length_map] at lengths
      rw [one, two, Option.map_some, Option.map_some, lengths]

namespace Similar

variable (similar : Similar literals node other)
include similar

theorem shape : SameShape node other :=
  ⟨similar.rules, similar.childText .comparisonOperator rfl⟩

theorem textOf_eq (rule : Rule) (read : rule.isRead literals = true) :
    node.textOf rule = other.textOf rule := by
  rw [textOf, textOf, similar.childText rule read]

end Similar

end Node

/-! ## Actions on alike nodes -/

def Rule.asksText : Rule → Bool
  | .propertyName | .numericLiteral | .westBoundLon | .southBoundLat | .eastBoundLon
  | .northBoundLat | .booleanLiteral | .function | .spatialPredicate | .temporalPredicate
  | .arrayPredicate => true
  | _ => false

def Action.blind : Action → Action
  | .bind _ wrap => .bind "" wrap
  | action => action

namespace Setting

variable {setting : Setting} {node other : Node}

theorem scalar_blind {placement : Placement} {bound bound' inlined inlined' : String}
    (same : placement = .inline → inlined = inlined') :
    (scalar placement bound inlined).blind = (scalar placement bound' inlined').blind := by
  cases placement with
  | bound => rfl
  | inline => rw [same rfl]; rfl

/-- Nodes of the same shape act alike but for the values that they bind, unless a name or a text is
looked at. -/
theorem action_blind_of_shape (rules : node.rule = other.rule) (shape : Node.SameShape node other)
    (plain : node.rule.asksText = false) :
    (setting.action false node).blind = (setting.action false other).blind := by
  cases kind : node.rule with
  | propertyName | numericLiteral | westBoundLon | southBoundLat | eastBoundLon | northBoundLat
  | booleanLiteral | function | spatialPredicate | temporalPredicate | arrayPredicate =>
      rw [kind] at plain
      cases plain
  | booleanExpression | booleanTerm | arrayClause =>
      simp only [action, kind, rules.symm.trans kind, shape.count_eq]
  | booleanFactor | booleanPrimary =>
      simp only [action, kind, rules.symm.trans kind, shape.includes_eq]
  | binaryComparisonPredicate =>
      simp only [action, kind, rules.symm.trans kind, comparison, shape.operator]
  | isLikePredicate | isNullPredicate =>
      simp only [action, kind, rules.symm.trans kind, shape.negation_eq]
  | isBetweenPredicate =>
      simp only [action, kind, rules.symm.trans kind, between, shape.negation_eq]
  | isInListPredicate =>
      simp only [action, kind, rules.symm.trans kind, inList, shape.negation_eq, shape.count_eq]
  | characterClause | patternExpression =>
      simp only [action, kind, rules.symm.trans kind, characterCall, shape.textFunction?_eq]
  | characterLiteral | dateString | timestampString =>
      simp only [action, kind, rules.symm.trans kind, Action.blind]
  | geometryLiteral | geometryCollection =>
      simp only [action, kind, rules.symm.trans kind, geometry, Action.blind, Bool.false_eq_true,
        if_false]
  | instantInstance | intervalParameter =>
      simp only [action, kind, rules.symm.trans kind, instant, shape.includes_eq]
  | _ => simp only [action, kind, rules.symm.trans kind]

/-- Similar nodes act alike but for the values that they bind. -/
theorem action_blind_of_similar (rules : node.rule = other.rule)
    (text : node.rule.isRead setting.literals = true → node.text = other.text)
    (similar : Node.Similar setting.literals node other) :
    (setting.action false node).blind = (setting.action false other).blind := by
  cases kind : node.rule with
  | propertyName =>
      have read : node.rule.isRead setting.literals = true := by rw [kind]; rfl
      simp only [action, kind, rules.symm.trans kind, property, text read]
  | numericLiteral | westBoundLon | southBoundLat | eastBoundLon | northBoundLat =>
      simp only [action, kind, rules.symm.trans kind]
      refine scalar_blind fun inline => text ?_
      rw [kind]
      exact beq_iff_eq.2 inline
  | booleanLiteral =>
      simp only [action, kind, rules.symm.trans kind, boolean]
      refine scalar_blind fun inline => ?_
      rw [text (by rw [kind]; exact beq_iff_eq.2 inline)]
  | function =>
      simp only [action, kind, rules.symm.trans kind, functionCall, Node.calledName,
        similar.textOf_eq .identifier rfl, similar.argumentCount]
  | spatialPredicate =>
      simp only [action, kind, rules.symm.trans kind, spatial,
        similar.textOf_eq .spatialFunction rfl]
  | temporalPredicate =>
      simp only [action, kind, rules.symm.trans kind, temporal,
        similar.textOf_eq .temporalFunction rfl]
  | arrayPredicate =>
      simp only [action, kind, rules.symm.trans kind, arrays,
        similar.textOf_eq .arrayFunction rfl]
  | _ => exact action_blind_of_shape rules similar.shape (by rw [kind]; rfl)

/-- Nodes that are alike act alike but for the values that they bind. -/
theorem action_blind (same : node.alike setting.literals other = true) :
    (setting.action false node).blind = (setting.action false other).blind := by
  obtain ⟨rules, text, _⟩ := Node.alike_iff.1 same
  exact action_blind_of_similar rules text (Node.similar_of_alike same)

end Setting

theorem Action.blind_eq {one two : Action} (same : one.blind = two.blind) :
    one = two ∨ ∃ value value' wrap, one = .bind value wrap ∧ two = .bind value' wrap := by
  cases one <;> cases two <;> simp_all [blind]

/-! ## Two translations side by side -/

/-- The parameters have the same names, and as many draws were made for them. -/
structure Bindings.Alike (one two : Bindings) : Prop where
  names : one.names = two.names
  drawn : one.drawn = two.drawn

/-- Two outcomes that differ in the values of parameters only. -/
inductive Indistinct : Except CompileError (List Operand × Bindings) →
    Except CompileError (List Operand × Bindings) → Prop where
  | error (reason : CompileError) : Indistinct (.error reason) (.error reason)
  | ok (operands : List Operand) {one two : Bindings} (alike : one.Alike two) :
      Indistinct (.ok (operands, one)) (.ok (operands, two))

theorem Bindings.Alike.isBound_eq {one two : Bindings} (alike : one.Alike two) :
    one.isBound = two.isBound := by
  funext name
  rw [Bool.eq_iff_iff, isBound_iff, isBound_iff, alike.names]

namespace Setting

variable {setting : Setting}

theorem bind_indistinct {one two : Bindings} (alike : one.Alike two) (value value' : String)
    (wrap : Fragment → Operand) :
    Indistinct (setting.assemble (.bind value wrap) [] one)
      (setting.assemble (.bind value' wrap) [] two) := by
  simp only [assemble, Bindings.bind, alike.isBound_eq, alike.drawn]
  cases ParameterName.fresh two.isBound setting.draws two.drawn with
  | mk found drawn =>
      cases found with
      | none => exact .error _
      | some name =>
          refine .ok _ ⟨?_, rfl⟩
          simpa [Bindings.names] using alike.names

theorem assemble_indistinct {one two : Bindings} (alike : one.Alike two) {action action' : Action}
    (same : action.blind = action'.blind) (parts : List Operand) :
    Indistinct (setting.assemble action parts one) (setting.assemble action' parts two) := by
  rcases Action.blind_eq same with rfl | ⟨value, value', wrap, rfl, rfl⟩
  · cases action with
    | keep => exact .ok _ alike
    | push operand => exact .ok _ alike
    | bind value wrap => exact bind_indistinct alike value value wrap
    | combine count result => exact .ok _ alike
    | refuse reason => exact .error reason
  · exact bind_indistinct alike value value' wrap

mutual

theorem translate_indistinct : ∀ (node : Node) {other : Node} {one two : Bindings},
    node.alike setting.literals other = true → one.Alike two →
      Indistinct (setting.translate node one) (setting.translate other two)
  | ⟨rule, offset, text, children⟩, other, one, two, same, alike => by
      have acts := action_blind same
      obtain ⟨rules, _, below⟩ := Node.alike_iff.1 same
      by_cases collection : rule = .geometryCollection
      · rw [setting.translate_collection one collection,
          setting.translate_collection two (rules ▸ collection)]
        exact assemble_indistinct alike acts []
      · rw [setting.translate_eq one collection,
          setting.translate_eq two (fun other => collection (rules.trans other))]
        have inner := translateAll_indistinct children below alike
        generalize setting.translateAll children one = first at inner
        generalize setting.translateAll other.children two = second at inner
        cases inner with
        | error reason => exact .error reason
        | ok operands alike => exact assemble_indistinct alike acts operands

theorem translateAll_indistinct : ∀ (nodes : List Node) {others : List Node} {one two : Bindings},
    Node.alikeAll setting.literals nodes others = true → one.Alike two →
      Indistinct (setting.translateAll nodes one) (setting.translateAll others two)
  | [], others, one, two, same, alike => by
      rw [Node.alikeAll_nil.1 same, translateAll, translateAll]
      exact .ok [] alike
  | node :: nodes, others, one, two, same, alike => by
      obtain ⟨other, rest, rfl, front, back⟩ := Node.alikeAll_cons.1 same
      rw [translateAll, translateAll]
      have head := translate_indistinct node front alike
      generalize setting.translate node one = first at head
      generalize setting.translate other two = second at head
      cases head with
      | error reason => exact .error reason
      | @ok operands mid mid' alike =>
          have tail := translateAll_indistinct nodes back alike
          change Indistinct ((setting.translateAll nodes mid).map _)
            ((setting.translateAll rest mid').map _)
          generalize setting.translateAll nodes mid = first at tail
          generalize setting.translateAll rest mid' = second at tail
          cases tail with
          | error reason => exact .error reason
          | ok more alike => exact .ok (operands ++ more) alike

end

/-! ## Whole filters -/

theorem usedParams_names (sigil : Char) (sql : String) (params : Parameters) :
    (Compilation.usedParams sigil sql params).map Prod.fst
      = (params.map Prod.fst).filter fun name => occursIn (sigil :: name.toList) sql.toList := by
  rw [List.filter_map]
  rfl

/-- Two filters that differ only in literals that are bound fail for the same reason, or compile to
the same SQL with the same names of parameters in the same order. -/
theorem compile_blind_to_literals (setting : Setting) {first second : String} {one two : Node}
    (accepted : Filter.parse first = .ok one) (acceptedToo : Filter.parse second = .ok two)
    (same : one.alike setting.literals two = true) :
    (∃ reason, setting.compile first = .error reason ∧ setting.compile second = .error reason) ∨
    ∃ result result', setting.compile first = .ok result ∧ setting.compile second = .ok result' ∧
      result.sql = result'.sql ∧ result.params.map Prod.fst = result'.params.map Prod.fst := by
  have indistinct : Indistinct (setting.translate one {}) (setting.translate two {}) :=
    translate_indistinct one same ⟨rfl, rfl⟩
  generalize done : setting.translate one {} = left at indistinct
  generalize doneToo : setting.translate two {} = right at indistinct
  cases indistinct with
  | error reason =>
      exact .inl ⟨reason, compile_error accepted done, compile_error acceptedToo doneToo⟩
  | ok operands alike =>
      obtain ⟨sql, shape, compiled⟩ := compile_ok accepted done
      obtain ⟨sql', shape', compiled'⟩ := compile_ok acceptedToo doneToo
      rw [shape] at shape'
      cases shape'
      refine .inr ⟨_, _, compiled, compiled', rfl, ?_⟩
      have names := alike.names
      unfold Bindings.names at names
      rw [usedParams_names, usedParams_names, names]

/-- A text with a quotation mark and a placeholder in it leaves no more trace than an empty one. -/
theorem compile_blind_to_literals_text :
    ∃ result result', compile { dialect := .geoPackage } "a = '' OR b > 10" = .ok result ∧
      compile { dialect := .geoPackage } "a = ''' OR :cql_aaaa --' OR b > -2.5e7" = .ok result' ∧
      result.sql = result'.sql ∧ result.params.map Prod.fst = result'.params.map Prod.fst := by
  have alike : ((Filter.parse "a = '' OR b > 10").toOption.any fun one =>
      (Filter.parse "a = ''' OR :cql_aaaa --' OR b > -2.5e7").toOption.any fun two =>
        one.alike {} two && (compile { dialect := .geoPackage } "a = '' OR b > 10").isOk)
      = true := by
    decide +kernel
  cases accepted : Filter.parse "a = '' OR b > 10" with
  | error errors => rw [accepted] at alike; cases alike
  | ok one =>
      cases acceptedToo : Filter.parse "a = ''' OR :cql_aaaa --' OR b > -2.5e7" with
      | error errors => rw [accepted, acceptedToo] at alike; cases alike
      | ok two =>
          rw [accepted, acceptedToo] at alike
          obtain ⟨same, compiles⟩ := Bool.and_eq_true_iff.1 alike
          rcases compile_blind_to_literals { dialect := .geoPackage } accepted acceptedToo same
            with ⟨reason, wrong, _⟩ | result
          · rw [wrong] at compiles
            cases compiles
          · exact result

end Setting

end Cql
