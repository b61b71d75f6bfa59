import Cql.Proofs.Compile.BoundLiteral
import Cql.Proofs.Sql.PairedFragment

/-!
# Actions that pair

The actions of one node under two settings make operands that pair out of operands that pair,
whatever the node is, unless it is a literal. The settings may differ in the dialect: what is asked
of the dialects is that what they make of fragments that pair are fragments that pair. Where both
actions refuse, the reason is the same but for the dialect that it names. The exception are accents,
which only one dialect can take off.
-/

namespace Cql

open Cql.Sql Cql.Grammar Cql.Temporal

def CompileError.inDialect (dialect : String) : CompileError → CompileError
  | .unknownFunction name _ => .unknownFunction name dialect
  | .inexpressible construct _ => .inexpressible construct dialect
  | reason => reason

variable {rel : Fragment → Fragment → Prop} {excused : CompileError → Prop}

/-! ## What actions make of operands that pair -/

namespace Action

/-- The actions make operands that pair out of operands that pair, or they refuse for one reason, up
to the dialect that it names. The first may refuse alone for a reason that excuses it. -/
inductive Paired (one two : Dialect) (excused : CompileError → Prop)
    (rel : Fragment → Fragment → Prop) : Action → Action → Prop where
  | keep : Paired one two excused rel .keep .keep
  | push {operand other : Operand} (paired : operand.Paired one two rel other) :
      Paired one two excused rel (.push operand) (.push other)
  | combine {count : Nat} {result result' : List Operand → Operand}
      (paired : ∀ operands others, List.Forall₂ (Operand.Paired one two rel) operands others →
        (result operands).Paired one two rel (result' others)) :
      Paired one two excused rel (.combine count result) (.combine count result')
  | refuse (reason : CompileError) :
      Paired one two excused rel (.refuse (reason.inDialect one.name))
        (.refuse (reason.inDialect two.name))
  | alone {reason : CompileError} (other : Action) (excuse : excused reason) :
      Paired one two excused rel (.refuse reason) other

variable {one two : Dialect} (pairing : Pairing rel)

theorem paired_ite {condition : Prop} [Decidable condition] {first second first' second' : Action}
    (yes : first.Paired one two excused rel first')
    (no : second.Paired one two excused rel second') :
    (if condition then first else second).Paired one two excused rel
      (if condition then first' else second') := by
  split
  · exact yes
  · exact no

include pairing

theorem combine1_paired {result result' : Operand → Operand}
    (each : ∀ operand other, operand.Paired one two rel other →
      (result operand).Paired one two rel (result' other)) :
    (combine1 result).Paired one two excused rel (combine1 result') := by
  refine .combine ?_
  rintro operands others (_ | ⟨first, _ | _⟩)
  · exact .blank pairing
  · exact each _ _ first
  · exact .blank pairing

theorem combine2_paired {result result' : Operand → Operand → Operand}
    (both : ∀ first second first' second', first.Paired one two rel first' →
      second.Paired one two rel second' →
        (result first second).Paired one two rel (result' first' second')) :
    (combine2 result).Paired one two excused rel (combine2 result') := by
  refine .combine ?_
  rintro operands others (_ | ⟨first, _ | ⟨second, _ | _⟩⟩)
  · exact .blank pairing
  · exact .blank pairing
  · exact both _ _ _ _ first second
  · exact .blank pairing

theorem combine4_paired {result result' : Operand → Operand → Operand → Operand → Operand}
    (all : ∀ first second third fourth first' second' third' fourth',
      first.Paired one two rel first' → second.Paired one two rel second' →
        third.Paired one two rel third' → fourth.Paired one two rel fourth' →
          (result first second third fourth).Paired one two rel
            (result' first' second' third' fourth')) :
    (combine4 result).Paired one two excused rel (combine4 result') := by
  refine .combine ?_
  rintro operands others
    (_ | ⟨first, _ | ⟨second, _ | ⟨third, _ | ⟨fourth, _ | _⟩⟩⟩⟩)
  · exact .blank pairing
  · exact .blank pairing
  · exact .blank pairing
  · exact .blank pairing
  · exact all _ _ _ _ _ _ _ _ first second third fourth
  · exact .blank pairing

end Action

/-! ### Texts out of the filter -/

/-- A text of a pattern without quotation marks, marks of placeholders and the last letter of a
conversion is a fixed text. -/
theorem Sql.isFixed_of_takes {pattern : Pattern} {text : String}
    (taken : pattern.Takes text.toList)
    (plain : pattern.avoids ['"', '\'', ':', '@', 'T'] = true) : isFixed text = true := by
  have free := Pattern.not_mem_of_takes taken plain
  have blunt : Lexeme.isBlunt text.toList = true := by
    have absent : 'T' ∉ text.toList := fun among => free 'T' among (by decide)
    refine Lexeme.isBlunt_iff.2 ⟨fun ends => ?_, fun ends => ?_⟩
    · exact absent (ends.subset (List.mem_cons_self ..))
    · exact absent (ends.subset (List.mem_cons_self ..))
  have closed : Lexeme.openQuote none text.toList = none := by
    generalize text.toList = cs at free
    induction cs with
    | nil => rfl
    | cons c cs ih =>
        obtain ⟨first, others⟩ := List.forall_mem_cons.1 free
        simp only [List.mem_cons, List.not_mem_nil, or_false, not_or] at first
        have plain : Lexeme.turnQuote none c = none := by
          simp [Lexeme.turnQuote, Lexeme.isQuote, first]
        rw [Lexeme.openQuote, List.foldl_cons, plain]
        exact ih others
  have unmarked {sigil : Char} (special : sigil ∈ [':', '@', 'T']) (cs : List Char)
      (free : ∀ c ∈ cs, c ∉ ['"', '\'', ':', '@', 'T']) : Lexeme.isUnmarked sigil cs = true := by
    have differs : ∀ c ∈ cs, (c != sigil) = true := by
      intro c among
      refine bne_iff_ne.2 ?_
      rintro rfl
      exact free c among (List.mem_cons_of_mem _ (List.mem_cons_of_mem _ special))
    clear free
    induction cs with
    | nil => rfl
    | cons c cs ih =>
        obtain ⟨first, others⟩ := List.forall_mem_cons.1 differs
        cases cs with
        | nil => exact first
        | cons next cs =>
            rw [Lexeme.isUnmarked, first, ih others]
            rfl
  rw [isFixed, isInert, closed, blunt, Bool.and_true, Bool.and_eq_true]
  refine ⟨rfl, List.all_eq_true.2 fun dialect _ => ?_⟩
  cases dialect with
  | geoPackage => exact unmarked (by decide) _ free
  | postgres => exact unmarked (by decide) _ free

theorem Node.Formed.operator_fixed {node : Node} (formed : node.Formed) :
    isFixed (((node.child? .comparisonOperator).map Node.text).getD "=") = true := by
  cases found : node.child? .comparisonOperator with
  | none => decide
  | some child =>
      have rule : child.rule = .comparisonOperator := by
        simpa using List.find?_some found
      have taken := (formed.children child (List.mem_of_find?_eq_some found)).taken
        (show definition child.rule = .token .comparisonOperator by rw [rule]; rfl)
      exact isFixed_of_takes taken (by decide)

theorem Node.negation_fixed (node : Node) : isFixed node.negation = true := by
  unfold negation
  split <;> decide

/-- Whether a node of the rule may be a point in time that is read from text. -/
def Rule.isInstant : Rule → Bool
  | .instantInstance | .intervalParameter => true
  | _ => false

namespace Setting

variable {one two : Setting} (matching : one.dialect.Matching two.dialect rel)
include matching

theorem words_paired {first second third : String} (left : isFixed first = true)
    (middle : isFixed second = true) (right : isFixed third = true) :
    rel (first ++ second ++ third) (first ++ second ++ third) :=
  matching.append (matching.append (matching.text left) (matching.text middle))
    (matching.text right)

theorem chain_paired (count : Nat) {connective : String} (fixed : isFixed connective = true) :
    (one.chain count connective).Paired one.dialect two.dialect excused rel
      (two.chain count connective) := by
  refine Action.paired_ite .keep (.combine fun operands others paired => ?_)
  exact .closed (matching.bracketed (matching.joined (Dialect.values_paired matching paired) fixed))

theorem comparison_paired {node : Node} (formed : node.Formed) :
    (one.comparison node).Paired one.dialect two.dialect excused rel (two.comparison node) := by
  refine .combine fun operands others paired => ?_
  have operator := words_paired matching (show isFixed " " = true by decide) formed.operator_fixed
    (show isFixed " " = true by decide)
  have values := Dialect.comparedValues_paired matching paired
  generalize one.dialect.comparedValues operands = compared at values
  generalize two.dialect.comparedValues others = compared' at values
  match values with
  | .nil => exact .blank matching.toPairing
  | .cons _ .nil => exact .blank matching.toPairing
  | .cons left (.cons right .nil) =>
      exact .loose matching.toPairing (matching.append (matching.append left operator) right)
  | .cons _ (.cons _ (.cons _ _)) => exact .blank matching.toPairing

theorem between_paired (node : Node) :
    (one.between node).Paired one.dialect two.dialect excused rel (two.between node) := by
  refine .combine fun operands others paired => ?_
  have word := words_paired matching (show isFixed " " = true by decide) node.negation_fixed
    (show isFixed "BETWEEN " = true by decide)
  have values := Dialect.comparedValues_paired matching paired
  generalize one.dialect.comparedValues operands = compared at values
  generalize two.dialect.comparedValues others = compared' at values
  match values with
  | .nil => exact .blank matching.toPairing
  | .cons _ .nil => exact .blank matching.toPairing
  | .cons _ (.cons _ .nil) => exact .blank matching.toPairing
  | .cons value (.cons low (.cons high .nil)) =>
      exact .closed (matching.bracketed (matching.between
        (matching.append (matching.append value word) low) high (by decide)))
  | .cons _ (.cons _ (.cons _ (.cons _ _))) => exact .blank matching.toPairing

theorem inList_paired (node : Node) :
    (one.inList node).Paired one.dialect two.dialect excused rel (two.inList node) := by
  refine .combine fun operands others paired => ?_
  have word := words_paired matching (show isFixed " " = true by decide) node.negation_fixed
    (show isFixed "IN " = true by decide)
  have values := Dialect.comparedValues_paired matching paired
  generalize one.dialect.comparedValues operands = compared at values
  generalize two.dialect.comparedValues others = compared' at values
  match values with
  | .nil => exact .blank matching.toPairing
  | .cons value items =>
      exact .closed (matching.bracketed (matching.append (matching.append value word)
        (matching.bracketed (matching.joined items (by decide)))))

/-- Calls of text functions pair, unless the first dialect cannot take accents off and is excused
for it. -/
theorem characterCall_paired (node : Node)
    (able : one.dialect = two.dialect ∨
      one.dialect = .geoPackage ∧ excused (.inexpressible "ACCENTI" "GeoPackage")) :
    (one.characterCall node).Paired one.dialect two.dialect excused rel
      (two.characterCall node) := by
  unfold characterCall
  split
  · exact .keep
  · next kind _ =>
      cases known : one.dialect.textFunction? kind with
      | none =>
          obtain ⟨dialect, rfl⟩ := textFunction?_eq_none.1 known
          rcases able with same | ⟨_, excuse⟩
          · have known' : two.dialect.textFunction? .accenti = none := by rw [← same, known]
            rw [known']
            exact .refuse (.inexpressible "ACCENTI" "")
          · rw [cannotExpress, dialect]
            exact .alone _ excuse
      | some name =>
          cases known' : two.dialect.textFunction? kind with
          | none =>
              obtain ⟨dialect, rfl⟩ := textFunction?_eq_none.1 known'
              rcases able with same | ⟨same, _⟩
              · rw [same, known'] at known
                cases known
              · rw [same] at known
                cases known
          | some name' =>
              refine Action.combine1_paired matching.toPairing fun operand other paired => ?_
              exact .loose matching.toPairing (matching.call (matching.textFunction known known')
                (.cons (Dialect.value_paired matching paired) .nil))

theorem functionCall_paired (node : Node) :
    (one.functionCall node).Paired one.dialect two.dialect excused rel (two.functionCall node) := by
  rcases one.functionCall_cases node with
    ⟨unknown, refused⟩ | ⟨function, arity, known, takes, counted⟩
  · rcases two.functionCall_cases node with ⟨_, refused'⟩ | ⟨_, _, _, takes', _⟩
    · rw [refused, refused']
      exact .refuse (.unknownFunction _ "")
    · rw [unknown] at takes'
      cases takes'
  · rcases two.functionCall_cases node with ⟨unknown', _⟩ | ⟨function', _, known', takes', counted'⟩
    · rw [unknown'] at takes
      cases takes
    · rw [takes, Option.some.injEq] at takes'
      subst takes'
      rw [counted, counted']
      refine Action.paired_ite (.combine fun operands others paired => ?_)
        (.refuse (.argumentCount _ _ _))
      exact .loose matching.toPairing
        (matching.call (matching.sqlFunction known known') (Dialect.values_paired matching paired))

theorem property_paired (node : Node) (queryables : one.queryables = two.queryables) :
    (one.property node).Paired one.dialect two.dialect excused rel (two.property node) := by
  simp only [property, queryables]
  exact Action.paired_ite (.push (.column (matching.column _))) (.refuse (.forbiddenProperty _))

theorem spatial_paired (node : Node) :
    (one.spatial node).Paired one.dialect two.dialect excused rel (two.spatial node) := by
  simp only [spatial]
  split
  · exact .refuse (.inexpressible _ "")
  · next relation _ =>
      refine Action.combine2_paired matching.toPairing
        fun left right left' right' first second => ?_
      exact matching.relateGeometries relation (Dialect.value_paired matching first)
        (Dialect.value_paired matching second)

theorem arrays_paired (node : Node) :
    (one.arrays node).Paired one.dialect two.dialect excused rel (two.arrays node) := by
  simp only [arrays]
  split
  · exact .refuse (.inexpressible _ "")
  · next relation _ =>
      refine Action.combine2_paired matching.toPairing
        fun left right left' right' first second => .closed ?_
      exact matching.relateArrays relation (Dialect.value_paired matching first)
        (Dialect.value_paired matching second)

omit matching in
theorem instant_paired (timed : one.dialect.TimedMatching two.dialect rel) (node : Node) :
    (one.instant node).Paired one.dialect two.dialect excused rel (two.instant node) := by
  refine Action.paired_ite ?_ (Action.paired_ite ?_ .keep)
  · exact Action.combine1_paired timed.toPairing fun operand other paired =>
      .loose timed.toPairing (timed.dateOf (Dialect.value_paired timed.toMatching paired))
  · exact Action.combine1_paired timed.toPairing fun operand other paired =>
      .loose timed.toPairing (timed.momentOf (Dialect.value_paired timed.toMatching paired))

theorem period_paired {operand other : Operand}
    (paired : operand.Paired one.dialect two.dialect rel other) :
    (one.dialect.period operand).Paired rel (two.dialect.period other) := by
  cases paired with
  | interval begins ends =>
      refine ⟨?_, ?_⟩
      · cases begins with
        | none => exact .past
        | some paired => exact .value paired
      · cases ends with
        | none => exact .future
        | some paired => exact .value paired
  | openEnd => exact ⟨.past, .future⟩
  | expr paired chained =>
      simp only [Dialect.period, matching.isEmpty_eq paired]
      split
      · exact ⟨.past, .future⟩
      · exact ⟨.value paired, .value paired⟩
  | column paired => exact ⟨.value paired, .value paired⟩
  | scalar paired typed => exact ⟨.value typed, .value typed⟩

theorem temporal_paired (node : Node) :
    (one.temporal node).Paired one.dialect two.dialect excused rel (two.temporal node) := by
  simp only [temporal]
  split
  · exact .refuse (.inexpressible _ "")
  · next relation _ =>
      refine Action.combine2_paired matching.toPairing
        fun left right left' right' first second => ?_
      refine Condition.render_paired matching.toPairing ?_ ?_
      · rfl
      · exact Conjunction.all_paired (relationTests_paired relation (period_paired matching first)
          (period_paired matching second))

theorem limit?_paired {operand other : Operand}
    (paired : operand.Paired one.dialect two.dialect rel other) :
    Option.Rel rel (one.dialect.limit? operand) (two.dialect.limit? other) := by
  have value := Dialect.value_paired matching paired
  cases paired with
  | openEnd => exact .none
  | expr paired chained => exact .some value
  | column paired => exact .some value
  | scalar paired typed => exact .some value
  | interval begins ends => exact .some value

omit matching in
/-- Brackets are put around a condition that is not closed, and it is closed then. -/
theorem closed_closedValue (dialect : Dialect) (operand : Operand) :
    (if operand.isClosed then operand else .closed (dialect.closedValue operand))
      = .closed (dialect.closedValue operand) := by
  rcases operand with ⟨sql, _ | _⟩ | _ | _ | _ | _ <;> rfl

/-- Every action of a node that is neither a literal nor a point in time makes operands that pair
out of operands that pair. -/
theorem action_paired_of_not_isInstant {node : Node} (formed : node.Formed)
    (inner : node.rule.isLiteral = false) (untimed : node.rule.isInstant = false)
    (queryables : one.queryables = two.queryables)
    (able : one.dialect = two.dialect ∨
      one.dialect = .geoPackage ∧ excused (.inexpressible "ACCENTI" "GeoPackage")) :
    (one.action false node).Paired one.dialect two.dialect excused rel (two.action false node) := by
  have pairing := matching.toPairing
  have value {operand other : Operand}
      (paired : operand.Paired one.dialect two.dialect rel other) :=
    Dialect.value_paired matching paired
  have closedValue {operand other : Operand}
      (paired : operand.Paired one.dialect two.dialect rel other) :=
    Dialect.closedValue_paired matching paired
  obtain ⟨rule, offset, text, children⟩ := node
  cases rule with
  | cqlFilter =>
      exact Action.combine1_paired pairing fun _ _ paired => .closed (closedValue paired)
  | booleanExpression => exact chain_paired matching _ (by decide)
  | booleanTerm => exact chain_paired matching _ (by decide)
  | booleanFactor =>
      refine Action.paired_ite (Action.combine1_paired pairing fun _ _ paired => ?_) .keep
      exact .loose pairing (pairing.append (pairing.text (by decide)) (closedValue paired))
  | booleanPrimary =>
      refine Action.paired_ite (Action.combine1_paired pairing fun _ _ paired => ?_) .keep
      simp only [closed_closedValue]
      exact .closed (closedValue paired)
  | binaryComparisonPredicate => exact comparison_paired matching formed
  | isLikePredicate =>
      refine Action.combine2_paired pairing fun _ _ _ _ first second => ?_
      exact .closed (pairing.bracketed (pairing.append (pairing.append (value first)
        (words_paired matching (by decide) (Node.negation_fixed _) (by decide))) (value second)))
  | isBetweenPredicate => exact between_paired matching _
  | isInListPredicate => exact inList_paired matching _
  | isNullPredicate =>
      refine Action.combine1_paired pairing fun _ _ paired => ?_
      exact .closed (pairing.bracketed (pairing.append (value paired)
        (words_paired matching (by decide) (Node.negation_fixed _) (by decide))))
  | characterClause | patternExpression => exact characterCall_paired matching _ able
  | propertyName => exact property_paired matching _ queryables
  | function => exact functionCall_paired matching ⟨.function, offset, text, children⟩
  | bbox =>
      refine Action.combine4_paired pairing fun _ _ _ _ _ _ _ _ west south east north => ?_
      exact .loose pairing
        (matching.rectangle (value west) (value south) (value east) (value north))
  | spatialPredicate => exact spatial_paired matching _
  | instantInstance | intervalParameter => cases untimed
  | now => exact .push (.loose pairing matching.present)
  | dotDotString => exact .push .openEnd
  | interval =>
      exact Action.combine2_paired pairing fun _ _ _ _ first last =>
        .interval (limit?_paired matching first) (limit?_paired matching last)
  | temporalPredicate => exact temporal_paired matching _
  | arrayClause =>
      exact .combine fun _ _ paired =>
        .loose pairing (matching.arrayOf (Dialect.values_paired matching paired))
  | arrayPredicate => exact arrays_paired matching _
  | characterLiteral | dateString | timestampString | numericLiteral | westBoundLon
  | southBoundLat | eastBoundLon | northBoundLat | booleanLiteral | geometryLiteral
  | geometryCollection => cases inner
  | _ => exact .keep

omit matching in
theorem action_paired (timed : one.dialect.TimedMatching two.dialect rel) {node : Node}
    (formed : node.Formed) (inner : node.rule.isLiteral = false)
    (queryables : one.queryables = two.queryables)
    (able : one.dialect = two.dialect ∨
      one.dialect = .geoPackage ∧ excused (.inexpressible "ACCENTI" "GeoPackage")) :
    (one.action false node).Paired one.dialect two.dialect excused rel (two.action false node) := by
  cases kind : node.rule.isInstant with
  | false => exact action_paired_of_not_isInstant timed.toMatching formed inner kind queryables able
  | true =>
      obtain ⟨rule, offset, text, children⟩ := node
      cases rule with
      | instantInstance | intervalParameter => exact instant_paired timed _
      | _ => cases kind

end Setting

end Cql
