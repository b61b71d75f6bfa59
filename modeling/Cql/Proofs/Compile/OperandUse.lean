import Cql.Proofs.Compile.PairedAction

/-!
# What becomes of operands

Most actions use their operands as values and do not ask what kind of operands they are: they do not
tell a number from a column with the same SQL. Only the three comparisons do, and what they compare
are single terms, each of which leaves an operand of the kind that its rule says.
-/

namespace Cql

open Cql.Sql Cql.Grammar Cql.Temporal

/-! ## Actions that use values -/

namespace Sql.Dialect

variable (dialect : Dialect) (operand : Operand)

def settle : Operand → Operand
  | .scalar sql bound => .column (dialect.value (.scalar sql bound))
  | other => other

@[simp] theorem value_settle : dialect.value (dialect.settle operand) = dialect.value operand := by
  cases operand <;> rfl

@[simp] theorem isClosed_settle : (dialect.settle operand).isClosed = operand.isClosed := by
  cases operand <;> rfl

@[simp] theorem closedValue_settle :
    dialect.closedValue (dialect.settle operand) = dialect.closedValue operand := by
  simp [closedValue]

@[simp] theorem period_settle :
    dialect.period (dialect.settle operand) = dialect.period operand := by
  cases operand <;> rfl

@[simp] theorem limit?_settle :
    dialect.limit? (dialect.settle operand) = dialect.limit? operand := by
  cases operand <;> rfl

@[simp] theorem values_settle (operands : List Operand) :
    (operands.map dialect.settle).map dialect.value = operands.map dialect.value := by
  simp [Function.comp_def]

end Sql.Dialect

def Rule.isComparison : Rule → Bool
  | .binaryComparisonPredicate | .isBetweenPredicate | .isInListPredicate => true
  | _ => false

namespace Action

/-- The action makes the same of numbers and truth values as of columns with their SQL. -/
def UsesValues (dialect : Dialect) : Action → Prop
  | .combine _ result => ∀ operands, result (operands.map dialect.settle) = result operands
  | _ => True

variable {dialect : Dialect}

theorem usesValues_ite {condition : Prop} [Decidable condition] {first second : Action}
    (yes : first.UsesValues dialect) (no : second.UsesValues dialect) :
    (if condition then first else second).UsesValues dialect := by
  split
  · exact yes
  · exact no

theorem combine1_usesValues {result : Operand → Operand}
    (same : ∀ operand, result (dialect.settle operand) = result operand) :
    (combine1 result).UsesValues dialect := by
  rintro (_ | ⟨first, _ | ⟨second, others⟩⟩)
  · rfl
  · exact same first
  · rfl

theorem combine2_usesValues {result : Operand → Operand → Operand}
    (same : ∀ first second,
      result (dialect.settle first) (dialect.settle second) = result first second) :
    (combine2 result).UsesValues dialect := by
  rintro (_ | ⟨first, _ | ⟨second, _ | ⟨third, others⟩⟩⟩)
  · rfl
  · rfl
  · exact same first second
  · rfl

theorem combine4_usesValues {result : Operand → Operand → Operand → Operand → Operand}
    (same : ∀ first second third fourth,
      result (dialect.settle first) (dialect.settle second) (dialect.settle third)
        (dialect.settle fourth) = result first second third fourth) :
    (combine4 result).UsesValues dialect := by
  rintro (_ | ⟨first, _ | ⟨second, _ | ⟨third, _ | ⟨fourth, _ | ⟨fifth, others⟩⟩⟩⟩⟩)
  · rfl
  · rfl
  · rfl
  · rfl
  · exact same first second third fourth
  · rfl

end Action

namespace Setting

variable {setting : Setting}

theorem chain_usesValues (count : Nat) (connective : String) :
    (setting.chain count connective).UsesValues setting.dialect :=
  Action.usesValues_ite trivial fun operands => by
    simp only [Dialect.values_settle]

theorem functionCall_usesValues (node : Node) :
    (setting.functionCall node).UsesValues setting.dialect := by
  rcases setting.functionCall_cases node with ⟨_, refused⟩ | ⟨function, arity, _, _, counted⟩
  · rw [refused]
    trivial
  · rw [counted]
    exact Action.usesValues_ite (fun operands => by simp only [Dialect.values_settle]) trivial

theorem characterCall_usesValues (node : Node) :
    (setting.characterCall node).UsesValues setting.dialect := by
  simp only [characterCall]
  split
  · trivial
  · split
    · trivial
    · exact Action.combine1_usesValues fun operand => by simp

theorem action_usesValues {node : Node} (apart : node.rule.isComparison = false) :
    (setting.action false node).UsesValues setting.dialect := by
  obtain ⟨rule, offset, text, children⟩ := node
  cases rule with
  | cqlFilter => exact Action.combine1_usesValues fun operand => by simp
  | booleanExpression | booleanTerm => exact chain_usesValues _ _
  | booleanFactor =>
      exact Action.usesValues_ite (Action.combine1_usesValues fun operand => by simp) trivial
  | booleanPrimary =>
      refine Action.usesValues_ite (Action.combine1_usesValues fun operand => ?_) trivial
      rw [closed_closedValue, closed_closedValue, Dialect.closedValue_settle]
  | isLikePredicate => exact Action.combine2_usesValues fun first second => by simp
  | isNullPredicate => exact Action.combine1_usesValues fun operand => by simp
  | characterClause | patternExpression => exact characterCall_usesValues _
  | function => exact functionCall_usesValues ⟨.function, offset, text, children⟩
  | bbox => exact Action.combine4_usesValues fun first second third fourth => by simp
  | spatialPredicate =>
      simp only [action, spatial]
      split
      · trivial
      · exact Action.combine2_usesValues fun first second => by simp
  | instantInstance | intervalParameter =>
      exact Action.usesValues_ite (Action.combine1_usesValues fun operand => by simp)
        (Action.usesValues_ite (Action.combine1_usesValues fun operand => by simp) trivial)
  | interval => exact Action.combine2_usesValues fun first second => by simp
  | temporalPredicate =>
      simp only [action, temporal]
      split
      · trivial
      · exact Action.combine2_usesValues fun first second => by simp
  | arrayClause =>
      intro operands
      simp only [Dialect.values_settle]
  | arrayPredicate =>
      simp only [action, arrays]
      split
      · trivial
      · exact Action.combine2_usesValues fun first second => by simp
  | propertyName =>
      simp only [action, property]
      split <;> trivial
  | numericLiteral | westBoundLon | southBoundLat | eastBoundLon | northBoundLat =>
      simp only [action, scalar]
      split <;> trivial
  | booleanLiteral =>
      simp only [action, boolean, scalar]
      split <;> trivial
  | binaryComparisonPredicate | isBetweenPredicate | isInListPredicate => cases apart
  | _ => trivial

end Setting

/-! ## Comparisons -/

theorem Sql.Dialect.comparedValues_column (dialect : Dialect) (values : List Fragment) :
    dialect.comparedValues (values.map Operand.column) = values := by
  cases values with
  | nil => rfl
  | cons first others =>
      simp [comparedValues, valueBeside, value, Function.comp_def]

/-- The action makes the same of operands as of columns with the SQL that they have where the first
of them is compared with the others. -/
def Action.UsesComparedValues (dialect : Dialect) : Action → Prop
  | .combine _ result => ∀ operands,
      result ((dialect.comparedValues operands).map .column) = result operands
  | _ => True

namespace Setting

variable {setting : Setting}

theorem action_usesComparedValues {node : Node} (compares : node.rule.isComparison = true) :
    (setting.action false node).UsesComparedValues setting.dialect := by
  obtain ⟨rule, offset, text, children⟩ := node
  cases rule with
  | binaryComparisonPredicate | isBetweenPredicate | isInListPredicate =>
      intro operands
      simp only [Dialect.comparedValues_column]
  | _ => cases compares

end Setting

/-! ## Terms -/

/-- Whether the operand is SQL text, neither a column nor a number nor a part of an interval. -/
def Sql.Operand.isText : Operand → Bool
  | .expr _ _ => true
  | _ => false

def Rule.isTemporal : Rule → Bool
  | .dateString | .timestampString => true
  | _ => false

def Rule.isText : Rule → Bool
  | .characterLiteral | .characterClause | .now | .instantInstance | .function => true
  | _ => false

namespace Node

theorem Formed.rules_of_characterClause {node : Node} (formed : node.Formed)
    (clause : node.rule = .characterClause) (plain : node.textFunction? = none) :
    node.children.map Node.rule = [.characterLiteral] := by
  have spelled := formed.spelled (show definition node.rule
    = .phrase (.characterCall .characterExpression) by rw [clause]; rfl)
  rw [textFunction?_eq] at plain
  simp only [Phrase.characterCall, Phrase.spells_orElse, Phrase.spells_append, Phrase.spells_kw,
    Phrase.spells_bracketed, Phrase.spells_ref, exists_and_left, exists_eq_left, List.cons_append,
    List.nil_append] at spelled
  rcases spelled with shape | shape | shape | shape | shape
  · simp [shape] at plain
  · simp [shape] at plain
  · simp [shape] at plain
  · simp [shape] at plain
  · exact shape

theorem Formed.rules_of_instantInstance {node : Node} (formed : node.Formed)
    (instant : node.rule = .instantInstance) :
    node.children.map Node.rule ∈ [[.keyword .date, .dateString],
      [.keyword .timestamp, .timestampString], [.now]] := by
  have spelled := formed.spelled (show definition node.rule
    = .phrase (.kw .date ++ .bracketed Rule.dateString
      <|> .kw .timestamp ++ .bracketed Rule.timestampString <|> Rule.now) by rw [instant]; rfl)
  simpa [List.map_eq_singleton_iff] using spelled

theorem Formed.rules_of_intervalParameter {node : Node} (formed : node.Formed)
    (limit : node.rule = .intervalParameter) :
    node.children.map Node.rule ∈ [[.timestampString], [.dateString], [.dotDotString], [.now],
      [.function], [.propertyName]] := by
  have spelled := formed.spelled (show definition node.rule
    = .phrase (Rule.timestampString <|> Rule.dateString <|> Rule.dotDotString <|> Rule.now
      <|> Phrase.functionOrProperty) by rw [limit]; rfl)
  simpa [Phrase.functionOrProperty, List.map_eq_singleton_iff] using spelled

end Node

namespace Setting

variable {setting : Setting}

theorem isText_of_combine1 {result : Operand → Operand}
    (text : ∀ operand, (result operand).isText = true) {parts operands : List Operand}
    {before after : Bindings}
    (put : setting.assemble (.combine1 result) parts before = .ok (operands, after)) :
    ∀ operand ∈ operands, operand.isText = true := by
  cases put
  refine List.forall_mem_singleton.2 ?_
  dsimp only
  split
  · exact text _
  · rfl

theorem isText_of_translate {node : Node} (formed : node.Formed) (text : node.rule.isText = true)
    {operands : List Operand} {before after : Bindings}
    (done : setting.translate node before = .ok (operands, after)) :
    ∀ operand ∈ operands, operand.isText = true := by
  induction formed using Node.Formed.induction generalizing operands before after with
  | step node formed ih =>
      have single : node.rule ≠ .geometryCollection := by
        intro collection
        rw [collection] at text
        cases text
      obtain ⟨parts, mid, inner, put⟩ := (translate_ok single).1 done
      have kept {rule : Rule} (only : node.children.map Node.rule = [rule])
          (plain : rule.isText = true) : ∀ operand ∈ parts, operand.isText = true := by
        intro operand among
        obtain ⟨child, inside, own, _, _, translated, member⟩ :=
          exists_of_mem_translateAll inner among
        have same : child.rule ∈ node.children.map Node.rule := List.mem_map_of_mem inside
        rw [only, List.mem_singleton] at same
        exact ih child inside (same ▸ plain) translated operand member
      obtain ⟨rule, offset, spelling, children⟩ := node
      cases rule with
      | characterLiteral =>
          obtain ⟨placeholder, rfl, _⟩ := assemble_bind_ok put
          exact List.forall_mem_singleton.2 rfl
      | now =>
          cases put
          exact List.forall_mem_singleton.2 rfl
      | function =>
          simp only [action] at put
          rcases setting.functionCall_cases ⟨.function, offset, spelling, children⟩ with
            ⟨_, refused⟩ | ⟨function, arity, _, _, counted⟩
          · rw [refused] at put
            cases put
          · rw [counted] at put
            split at put
            · cases put
              exact List.forall_mem_singleton.2 rfl
            · cases put
      | characterClause =>
          simp only [action, characterCall] at put
          split at put
          · next plain =>
              cases put
              exact kept (formed.rules_of_characterClause rfl plain) rfl
          · split at put
            · cases put
            · exact isText_of_combine1 (fun _ => rfl) put
      | instantInstance =>
          simp only [action, instant] at put
          split at put
          · exact isText_of_combine1 (fun _ => rfl) put
          · next undated =>
              split at put
              · exact isText_of_combine1 (fun _ => rfl) put
              · next untimed =>
                  cases put
                  simp only [Bool.or_eq_true, Node.includes_iff] at undated untimed
                  have shape := formed.rules_of_instantInstance rfl
                  simp only [List.mem_cons, List.not_mem_nil, or_false] at shape
                  rcases shape with shape | shape | shape
                  · simp [shape] at undated
                  · simp [shape] at untimed
                  · exact kept shape rfl
      | _ => cases text

/-! ## Points in time -/

/-- A point in time is left as it is, or it is made of a single date or time. -/
theorem instant_eq_keep_or (setting : Setting) {node : Node} (formed : node.Formed)
    (timed : node.rule.isInstant = true) :
    setting.instant node = .keep ∨
      ∀ child ∈ node.children, child.rule.isTemporal = true ∨
        child.rule.operandCount? = some 0 := by
  have times {rules : List Rule} (shape : node.children.map Node.rule = rules)
      (each : ∀ rule ∈ rules, rule.isTemporal = true ∨ rule.operandCount? = some 0) :
      ∀ child ∈ node.children, child.rule.isTemporal = true ∨
        child.rule.operandCount? = some 0 :=
    fun child among => each _ (shape ▸ List.mem_map_of_mem among)
  have keeps {rule : Rule} (shape : node.children.map Node.rule = [rule])
      (other : rule ∉ [.keyword .date, .dateString, .keyword .timestamp, .timestampString]) :
      setting.instant node = .keep := by
    have absent {known : Rule} (listed : known ∈ [Rule.keyword .date, .dateString,
        .keyword .timestamp, .timestampString]) : ¬ node.includes known = true := by
      rw [Node.includes_iff, shape, List.mem_singleton]
      rintro rfl
      exact other listed
    rw [instant, if_neg, if_neg]
    · rw [Bool.or_eq_true, not_or]
      exact ⟨absent (by decide), absent (by decide)⟩
    · rw [Bool.or_eq_true, not_or]
      exact ⟨absent (by decide), absent (by decide)⟩
  generalize known : node.rule = rule at timed
  cases rule with
  | instantInstance =>
      have shape := formed.rules_of_instantInstance known
      simp only [List.mem_cons, List.not_mem_nil, or_false] at shape
      rcases shape with shape | shape | shape
      · exact .inr (times shape (by decide))
      · exact .inr (times shape (by decide))
      · exact .inl (keeps shape (by decide))
  | intervalParameter =>
      have shape := formed.rules_of_intervalParameter known
      simp only [List.mem_cons, List.not_mem_nil, or_false] at shape
      rcases shape with shape | shape | shape | shape | shape | shape
      · exact .inr (times shape (by decide))
      · exact .inr (times shape (by decide))
      · exact .inl (keeps shape (by decide))
      · exact .inl (keeps shape (by decide))
      · exact .inl (keeps shape (by decide))
      · exact .inl (keeps shape (by decide))
  | _ => cases timed

end Setting

end Cql
