import Cql.Proofs.Compile.OperandInvariant
import Cql.Proofs.Sql.SafeDialect

/-!
# The SQL of a filter is safe

Text of a filter reaches its SQL in three ways only: as the name of a column between quotes, as the
text of a number, and as an operator of comparison. This module follows the operands of a filter
through its translation and shows that none of them can break out of its place: whatever the
filter, its SQL is one group between brackets, in which every quotation is closed, every identifier
is an admitted property, and nothing ends the statement or begins a comment.
-/

namespace Cql

open Cql.Sql Cql.Grammar Cql.Temporal

variable {allowed : String → Prop}

/-! ## Numbers, operators and placeholders -/

namespace Sql

open Lexeme

theorem Lexeme.neutral_of_takes {pattern : Pattern} {cs : List Char} (taken : pattern.Takes cs)
    (plain : pattern.avoids special = true) : ∀ lexeme ∈ cs.map Lexeme.mark, lexeme.Neutral :=
  neutral_of_not_mem (Pattern.not_mem_of_takes taken plain)

theorem Lexeme.sound_sign {cs : List Char} (taken : (Pattern.opt .sign).Takes cs) :
    Sound allowed (cs.map .mark) := by
  have single (c : Char) (free : isQuote c = false ∧ c ≠ ';') : Sound allowed [.mark c] :=
    .single free
  rcases taken with rfl | rfl | rfl
  · exact Sound.of_neutral fun _ among => nomatch among
  · exact single '+' (by decide)
  · exact single '-' (by decide)

theorem Lexeme.sound_exponent {cs : List Char}
    (taken : (Pattern.caseless "e" ++ Pattern.opt .sign ++ .many1 .digit).Takes cs) :
    Sound allowed (cs.map .mark) ∧ ∀ first ∈ (cs.map Lexeme.mark).head?, first.Neutral := by
  obtain ⟨_, digits, ⟨letter, sign, marked, signed, rfl⟩, counted, rfl⟩ := taken
  have neutralLetter := neutral_of_takes marked (by decide)
  have neutralDigits := neutral_of_takes counted (by decide)
  obtain ⟨e, rest, rfl⟩ : ∃ e rest, letter = e :: rest := by
    cases letter with
    | nil => cases marked
    | cons e rest => exact ⟨e, rest, rfl⟩
  constructor
  · rw [List.map_append, List.map_append]
    refine Sound.append_of_head (Sound.append_of_last (.of_neutral neutralLetter)
      (sound_sign signed) ?_) (.of_neutral neutralDigits) ?_
    · exact fun last member => neutralLetter last (List.mem_of_getLast? member)
    · exact fun first member => neutralDigits first (List.mem_of_head? member)
  · intro first member
    cases member
    exact neutralLetter _ (List.mem_cons_self ..)

theorem Lexeme.sound_number {cs : List Char} (taken : Pattern.number.Takes cs) :
    Sound allowed (cs.map .mark) := by
  obtain ⟨_, exponent, ⟨sign, digits, signed, counted, rfl⟩, scaled, rfl⟩ := taken
  have neutral := neutral_of_takes counted (by decide)
  have front : Sound allowed ((sign ++ digits).map .mark) := by
    rw [List.map_append]
    refine Sound.append_of_head (sound_sign signed) (.of_neutral neutral) ?_
    exact fun first member => neutral first (List.mem_of_head? member)
  rw [List.map_append]
  rcases scaled with rfl | scaled
  · rw [List.map_nil, List.append_nil]
    exact front
  · obtain ⟨back, edge⟩ := sound_exponent scaled
    exact front.append_of_head back edge

theorem Fragment.undivided_number {text : String} (taken : Pattern.number.Takes text.toList) :
    Fragment.Undivided allowed text := by
  have level : ∀ c ∈ text.toList, c ∉ brackets := Pattern.not_mem_of_takes taken (by decide)
  have other : ∀ c ∈ text.toList, c ∉ ['A', 'a', 'O', 'o', 'N', 'n'] :=
    Pattern.not_mem_of_takes taken (by decide)
  refine ⟨marks text, sound_number taken, balanced_of_level level, by simp [Piece.render], ?_⟩
  rw [marks, exposed_marks level]
  exact quiet_of_not_mem other

theorem Fragment.undivided_placeholder (dialect : Dialect) (index : Nat) :
    Fragment.Undivided allowed [.placeholder dialect.sigil (ParameterName.ofIndex index)] := by
  have table : ∀ k : Fin 26, Char.ofNat (97 + k.val) ∉ special ++ brackets ∧
      isWordPart (Char.ofNat (97 + k.val)) = true := by decide
  have letters (i : Nat) : ParameterName.letter i ∉ special ++ brackets ∧
      isWordPart (ParameterName.letter i) = true :=
    table ⟨i % 26, Nat.mod_lt i (by decide)⟩
  have sigil : dialect.sigil ∉ special ++ brackets ∧ isWordPart dialect.sigil = false := by
    cases dialect <;> decide
  have name : ∀ c ∈ (ParameterName.ofIndex index).toList, c ∉ special ++ brackets ∧
      isWordPart c = true := by
    simp only [ParameterName.ofIndex, String.toList_ofList, List.forall_mem_cons]
    exact ⟨by decide, by decide, by decide, by decide, letters _, letters _, letters _,
      letters _, List.forall_mem_nil _⟩
  have free : ∀ c ∈ dialect.sigil :: (ParameterName.ofIndex index).toList,
      c ∉ special ++ brackets :=
    List.forall_mem_cons.2 ⟨sigil.1, fun c member => (name c member).1⟩
  have level : ∀ c ∈ dialect.sigil :: (ParameterName.ofIndex index).toList, c ∉ brackets :=
    fun c member bad => free c member (List.mem_append_right _ bad)
  refine ⟨(dialect.sigil :: (ParameterName.ofIndex index).toList).map .mark,
    Sound.of_neutral (neutral_of_not_mem ?_), balanced_of_level level, ?_, ?_⟩
  · exact fun c member bad => free c member (List.mem_append_left _ bad)
  · rw [writeAll, List.flatMap_map]
    simp [write, Piece.render]
  · rw [exposed_marks level]
    refine (@quiet_append_cons _ sigil.2 [] _).2 ⟨quiet_nil, ?_⟩
    rw [Quiet, wordsFrom_eq fun c member => (name c member).2, List.forall_mem_singleton]
    simp [ParameterName.ofIndex, connectives]

end Sql

open Sql.Fragment

theorem Node.Formed.operator_mem {node : Node} (formed : node.Formed) :
    ((node.child? .comparisonOperator).map Node.text).getD "="
      ∈ ["<>", "<=", ">=", "=", "<", ">"] := by
  cases found : node.child? .comparisonOperator with
  | none => decide
  | some child =>
      have rule : child.rule = .comparisonOperator := by
        simpa using List.find?_some found
      have taken := (formed.children child (List.mem_of_find?_eq_some found)).taken
        (show definition child.rule = .token .comparisonOperator by rw [rule]; rfl)
      obtain ⟨pattern, among, takes⟩ := Pattern.takes_firstOf taken (by simp)
      simp only [List.mem_cons, List.not_mem_nil, or_false] at among
      rcases among with rfl | rfl | rfl | rfl | rfl | rfl <;>
        simp [String.toList_inj.1 takes]

/-- An operator of comparison may stand between two values. -/
theorem Node.Formed.isOperator_operator {node : Node} (formed : node.Formed) :
    isOperator ((" " : Fragment)
      ++ ((node.child? .comparisonOperator).map Node.text).getD "=" ++ " ") = true := by
  have each : ∀ text ∈ ["<>", "<=", ">=", "=", "<", ">"],
      isOperator ((" " : Fragment) ++ text ++ " ") = true := by
    decide
  exact each _ formed.operator_mem

/-- A word that may be negated can stand beside a value when it can in both its forms. -/
theorem Node.negation_separates (node : Node) {before after : String}
    (both : ∀ word ∈ ["NOT ", ""],
      isSeparator ((before : Fragment) ++ word ++ after) = true) :
    isSeparator ((before : Fragment) ++ node.negation ++ after) = true := by
  refine both _ ?_
  unfold negation
  split <;> decide

abbrev Action.KeepsSafe (allowed : String → Prop) (action : Action) : Prop :=
  action.Keeps (Fragment.Undivided allowed) (Operand.Safe allowed)

abbrev Action.KeepsUndivided (allowed : String → Prop) (action : Action) : Prop :=
  action.Keeps (Fragment.Undivided allowed) (Operand.Undivided allowed)

namespace Rule

def isBoolean : Rule → Bool
  | .cqlFilter | .booleanExpression | .booleanTerm | .booleanFactor | .booleanPrimary => true
  | _ => false

/-- No rule below a condition joins conditions. -/
theorem isBoolean_definition (rule : Rule) :
    (rule.isBoolean || match definition rule with
      | .phrase body => body.mentions.all fun part => !part.isBoolean
      | _ => true) = true := by
  cases rule <;> rfl

end Rule

theorem Node.Formed.plain_of_child {node child : Node} (formed : node.Formed)
    (plain : node.rule.isBoolean = false) (among : child ∈ node.children) :
    child.rule.isBoolean = false := by
  have closed := node.rule.isBoolean_definition
  rw [plain, Bool.false_or] at closed
  simpa using formed.all_of_child closed among

/-! ## Actions that make values and conditions -/

namespace Setting

variable (setting : Setting)

theorem values_safe {operands : List Operand}
    (each : ∀ operand ∈ operands, operand.Safe allowed) :
    ∀ sql ∈ operands.map setting.dialect.value, sql.Safe allowed := by
  intro sql among
  obtain ⟨operand, member, rfl⟩ := List.mem_map.1 among
  exact setting.dialect.value_safe (each operand member)

theorem value_safe {operand : Operand} (undivided : operand.Undivided allowed) :
    (setting.dialect.value operand).Safe allowed :=
  setting.dialect.value_safe undivided.safe

theorem comparison_keeps {node : Node} (formed : node.Formed) :
    (setting.comparison node).KeepsUndivided allowed := by
  intro operands each
  have undivided := setting.dialect.comparedValues_undivided each
  dsimp only
  split
  · next left right values =>
      rw [values] at undivided
      simp only [List.forall_mem_cons] at undivided
      exact Operand.undivided_loose
        (undivided.1.between undivided.2.1 formed.isOperator_operator)
  · exact Operand.undivided_blank

theorem between_keeps (node : Node) : (setting.between node).KeepsUndivided allowed := by
  intro operands each
  have undivided := setting.dialect.comparedValues_undivided each
  have word : isSeparator ((" " : Fragment) ++ node.negation ++ "BETWEEN ") = true :=
    node.negation_separates (by decide)
  have also : isSeparator " AND " = true := by decide
  dsimp only
  split
  · next value low high values =>
      rw [values] at undivided
      simp only [List.forall_mem_cons] at undivided
      obtain ⟨one, two, three, _⟩ := undivided
      exact Operand.undivided_closed
        ((one.safe.between two.safe word).between three.safe also).bracketed
  · exact Operand.undivided_blank

theorem inList_keeps (node : Node) : (setting.inList node).KeepsUndivided allowed := by
  intro operands each
  have undivided := setting.dialect.comparedValues_undivided each
  have word : isSeparator ((" " : Fragment) ++ node.negation ++ "IN ") = true :=
    node.negation_separates (by decide)
  dsimp only
  split
  · next value items values =>
      rw [values] at undivided
      obtain ⟨first, others⟩ := List.forall_mem_cons.1 undivided
      have listed : Safe allowed (Fragment.joined ", " items) :=
        Safe.joined (fun sql among => (others sql among).safe) (by decide)
      exact Operand.undivided_closed (first.safe.between listed.bracketed.safe word).bracketed
  · exact Operand.undivided_blank

theorem like_keeps (node : Node) :
    (Action.combine2 fun left right => .closed (Fragment.bracketed
      (setting.dialect.value left ++ (" " ++ node.negation ++ "LIKE ")
        ++ setting.dialect.value right))).KeepsUndivided allowed := by
  have word : isSeparator ((" " : Fragment) ++ node.negation ++ "LIKE ") = true :=
    node.negation_separates (by decide)
  refine Action.combine2_keeps Operand.undivided_blank fun left right one two => ?_
  exact Operand.undivided_closed
    ((setting.value_safe one).between (setting.value_safe two) word).bracketed

theorem null_keeps (node : Node) :
    (Action.combine1 fun operand => .closed (Fragment.bracketed (setting.dialect.value operand
      ++ (" IS " ++ node.negation ++ "NULL")))).KeepsUndivided allowed := by
  have word : isSeparator ((" IS " : Fragment) ++ node.negation ++ "NULL") = true :=
    node.negation_separates (by decide)
  refine Action.combine1_keeps Operand.undivided_blank fun operand undivided => ?_
  exact Operand.undivided_closed ((setting.value_safe undivided).before word).bracketed

theorem characterCall_keeps (node : Node) :
    (setting.characterCall node).KeepsUndivided allowed := by
  unfold characterCall
  split
  · trivial
  · next function _ =>
      split
      · trivial
      · next name able =>
          have named : hides (name ++ "(") ")" = true := by
            have all : ∀ function, ∀ name ∈ setting.dialect.textFunction? function,
                hides (name ++ "(") ")" = true := by
              cases setting.dialect <;> rintro (_ | _ | _ | _) <;> decide
            exact all function name able
          refine Action.combine1_keeps Operand.undivided_blank fun operand undivided => ?_
          exact Operand.undivided_loose
            (undivided_call (List.forall_mem_singleton.2 (setting.value_safe undivided)) named)

theorem hides_sqlFunction {name function : String}
    (known : setting.dialect.sqlFunction? name = some function) :
    hides (function ++ "(") ")" = true := by
  have all : ∀ function ∈ "char_length" :: functions.map Prod.fst,
      hides (function ++ "(") ")" = true := by decide
  exact all function (Dialect.mem_of_sqlFunction? known)

theorem functionCall_keeps (node : Node) :
    (setting.functionCall node).KeepsUndivided allowed := by
  rcases setting.functionCall_cases node with ⟨_, refused⟩ | ⟨function, arity, known, _, counted⟩
  · rw [refused]
    trivial
  · rw [counted]
    refine Action.keeps_ite ?_ trivial
    intro operands each
    exact Operand.undivided_loose
      (undivided_call (setting.values_safe fun operand among => (each operand among).safe)
        (setting.hides_sqlFunction known))

theorem scalar_keeps {placement : Placement} {bound inlined : String}
    (undivided : placement = .inline → Fragment.Undivided allowed inlined) :
    (scalar placement bound inlined).KeepsUndivided allowed := by
  cases placement with
  | bound => exact fun placeholder undivided => undivided
  | inline => exact undivided rfl

theorem boolean_keeps (node : Node) : (setting.boolean node).KeepsUndivided allowed := by
  refine scalar_keeps fun _ => undivided_fixed ?_
  split <;> decide

theorem geometry_keeps (node : Node) : (geometry node).KeepsUndivided allowed := by
  intro placeholder undivided
  exact Operand.undivided_loose (Dialect.geometryOf_undivided undivided.safe)

theorem spatial_keeps (node : Node) : (setting.spatial node).KeepsUndivided allowed := by
  simp only [spatial]
  split
  · trivial
  · next relation _ =>
      refine Action.combine2_keeps Operand.undivided_blank fun left right one two => ?_
      exact setting.dialect.relateGeometries_undivided relation (setting.value_safe one)
        (setting.value_safe two)

theorem arrays_keeps (node : Node) : (setting.arrays node).KeepsUndivided allowed := by
  simp only [arrays]
  split
  · trivial
  · next relation _ =>
      refine Action.combine2_keeps Operand.undivided_blank fun left right one two => ?_
      exact Operand.undivided_closed (setting.dialect.relateArrays_grouped relation
        (setting.value_safe one) (setting.value_safe two))

theorem instant_keeps (node : Node) : (setting.instant node).KeepsUndivided allowed := by
  refine Action.keeps_ite ?_ (Action.keeps_ite ?_ trivial)
  · refine Action.combine1_keeps Operand.undivided_blank fun operand undivided => ?_
    exact Operand.undivided_loose
      (setting.dialect.dateOf_undivided (setting.value_safe undivided))
  · refine Action.combine1_keeps Operand.undivided_blank fun operand undivided => ?_
    exact Operand.undivided_loose
      (setting.dialect.momentOf_undivided (setting.value_safe undivided))

theorem period_safe {operand : Operand} (safe : operand.Safe allowed) :
    (setting.dialect.period operand).first.Safe allowed ∧
      (setting.dialect.period operand).last.Safe allowed := by
  cases operand with
  | interval first last =>
      constructor
      · cases first with
        | none => trivial
        | some sql => exact safe.1 sql rfl
      · cases last with
        | none => trivial
        | some sql => exact safe.2 sql rfl
  | openEnd => exact ⟨trivial, trivial⟩
  | expr sql closed =>
      simp only [Dialect.period]
      split
      · exact ⟨trivial, trivial⟩
      · exact ⟨safe.1, safe.1⟩
  | column sql => exact ⟨setting.dialect.value_safe safe, setting.dialect.value_safe safe⟩
  | scalar sql bound => exact ⟨setting.dialect.value_safe safe, setting.dialect.value_safe safe⟩

theorem temporal_keeps (node : Node) : (setting.temporal node).KeepsUndivided allowed := by
  simp only [temporal]
  split
  · trivial
  · next relation _ =>
      refine Action.combine2_keeps Operand.undivided_blank fun left right one two => ?_
      have first := setting.period_safe one.safe
      have second := setting.period_safe two.safe
      refine Condition.render_undivided (relate_safe relation ?_)
      simp only [List.forall_mem_cons]
      exact ⟨first.1, first.2, second.1, second.2, List.forall_mem_nil _⟩

theorem limit?_safe {operand : Operand} (safe : operand.Safe allowed) :
    ∀ sql ∈ setting.dialect.limit? operand, sql.Safe allowed := by
  intro sql limit
  cases operand with
  | openEnd => cases limit
  | expr _ _ => cases limit; exact setting.dialect.value_safe safe
  | column _ => cases limit; exact setting.dialect.value_safe safe
  | scalar _ _ => cases limit; exact setting.dialect.value_safe safe
  | interval _ _ => cases limit; exact setting.dialect.value_safe safe

/-- Every action that joins no conditions makes undivided operands out of undivided operands, where
the properties that are admitted are allowed. -/
theorem action_keepsUndivided {node : Node} (formed : node.Formed)
    (plain : node.rule.isBoolean = false)
    (admitted : node.rule = .propertyName →
      setting.queryables.admits (Identifier.unquote node.text) = true →
        allowed (Identifier.unquote node.text)) :
    (setting.action false node).KeepsUndivided allowed := by
  obtain ⟨rule, offset, text, children⟩ := node
  cases rule with
  | cqlFilter | booleanExpression | booleanTerm | booleanFactor | booleanPrimary => cases plain
  | binaryComparisonPredicate => exact setting.comparison_keeps formed
  | isLikePredicate => exact setting.like_keeps _
  | isBetweenPredicate => exact setting.between_keeps _
  | isInListPredicate => exact setting.inList_keeps _
  | isNullPredicate => exact setting.null_keeps _
  | characterClause | patternExpression => exact setting.characterCall_keeps _
  | propertyName =>
      change (if _ then _ else _ : Action).KeepsUndivided allowed
      split
      · next known => exact undivided_column (admitted rfl known)
      · trivial
  | characterLiteral | dateString | timestampString =>
      exact fun placeholder undivided => Operand.undivided_loose undivided
  | numericLiteral | westBoundLon | southBoundLat | eastBoundLon | northBoundLat =>
      exact scalar_keeps fun _ => undivided_number (formed.taken rfl)
  | booleanLiteral => exact setting.boolean_keeps _
  | function => exact setting.functionCall_keeps ⟨.function, offset, text, children⟩
  | geometryLiteral | geometryCollection => exact geometry_keeps _
  | bbox =>
      refine Action.combine4_keeps Operand.undivided_blank
        fun west south east north one two three four => ?_
      exact Operand.undivided_loose (setting.dialect.rectangle_undivided (setting.value_safe one)
        (setting.value_safe two) (setting.value_safe three) (setting.value_safe four))
  | spatialPredicate => exact setting.spatial_keeps _
  | instantInstance | intervalParameter => exact setting.instant_keeps _
  | now => exact Operand.undivided_loose setting.dialect.present_undivided
  | dotDotString => trivial
  | interval =>
      refine Action.combine2_keeps Operand.undivided_blank fun first last one two => ?_
      exact ⟨setting.limit?_safe one.safe, setting.limit?_safe two.safe⟩
  | temporalPredicate => exact setting.temporal_keeps _
  | arrayClause =>
      intro operands each
      exact Operand.undivided_loose (setting.dialect.arrayOf_undivided
        (setting.values_safe fun operand among => (each operand among).safe))
  | arrayPredicate => exact setting.arrays_keeps _
  | _ => trivial

/-! ## Actions that join conditions -/

theorem chain_keeps (count : Nat) {connective : String}
    (separates : isSeparator connective = true) :
    (setting.chain count connective).KeepsSafe allowed := by
  refine Action.keeps_ite trivial ?_
  intro operands each
  have joined := Safe.joined (setting.values_safe each) separates
  exact (Operand.undivided_closed joined.bracketed).safe

theorem action_keepsSafe {node : Node} (joins : node.rule.isBoolean = true) :
    (setting.action false node).KeepsSafe allowed := by
  have blank : Operand.blank.Safe allowed := Operand.undivided_blank.safe
  have enclosed {operand : Operand} (safe : operand.Safe allowed) :
      (Operand.closed (setting.dialect.closedValue operand)).Safe allowed :=
    (Operand.undivided_closed (setting.dialect.closedValue_grouped safe)).safe
  obtain ⟨rule, offset, text, children⟩ := node
  cases rule with
  | cqlFilter => exact Action.combine1_keeps blank fun operand safe => enclosed safe
  | booleanExpression => exact setting.chain_keeps _ (by decide)
  | booleanTerm => exact setting.chain_keeps _ (by decide)
  | booleanFactor =>
      refine Action.keeps_ite (Action.combine1_keeps blank fun operand safe => ?_) trivial
      have condition := setting.dialect.closedValue_grouped safe
      have negation : isSeparator "NOT " = true := by decide
      exact Operand.safe_loose (condition.safe.after negation)
  | booleanPrimary =>
      refine Action.keeps_ite (Action.combine1_keeps blank fun operand safe => ?_) trivial
      split
      · exact safe
      · exact enclosed safe
  | _ => cases joins

/-! ## Whole filters -/

variable {setting}

theorem translate_undivided {node : Node} (formed : node.Formed)
    (plain : node.rule.isBoolean = false)
    (admitted : ∀ inner ∈ node.preorder, inner.rule = .propertyName →
      setting.queryables.admits (Identifier.unquote inner.text) = true →
        allowed (Identifier.unquote inner.text))
    {operands : List Operand} {before after : Bindings}
    (done : setting.translate node before = .ok (operands, after)) :
    ∀ operand ∈ operands, operand.Undivided allowed := by
  induction formed using Node.Formed.induction generalizing operands before after with
  | step node formed ih =>
      refine translate_keeps
        (setting.action_keepsUndivided formed plain (admitted node node.self_mem_preorder))
        (undivided_placeholder setting.dialect)
        (fun child among => ih child among (formed.plain_of_child plain among) ?_) done
      exact fun inner below => admitted inner (Node.mem_preorder.2 (.inr ⟨child, among, below⟩))

theorem translate_safe {node : Node} (formed : node.Formed)
    (admitted : ∀ inner ∈ node.preorder, inner.rule = .propertyName →
      setting.queryables.admits (Identifier.unquote inner.text) = true →
        allowed (Identifier.unquote inner.text))
    {operands : List Operand} {before after : Bindings}
    (done : setting.translate node before = .ok (operands, after)) :
    ∀ operand ∈ operands, operand.Safe allowed := by
  induction formed using Node.Formed.induction generalizing operands before after with
  | step node formed ih =>
      cases joins : node.rule.isBoolean with
      | true =>
          refine translate_keeps (setting.action_keepsSafe joins)
            (undivided_placeholder setting.dialect) (fun child among => ih child among ?_) done
          exact fun inner below =>
            admitted inner (Node.mem_preorder.2 (.inr ⟨child, among, below⟩))
      | false =>
          intro operand among
          exact (translate_undivided formed joins admitted done operand among).safe

/-- The SQL of a filter can be read to its end without an open quotation. Its identifiers are names
of admitted properties in the filter, and its strings are among three fixed ones. Outside quotes its
brackets are balanced, the first and the last character being a pair of them, and there is no end
of a statement and no beginning of a comment. -/
theorem compile_sql_safe (setting : Setting) {filter : String} {result : SqlFilter}
    (written : Text.isBlank filter = false) (compiled : setting.compile filter = .ok result) :
    ∃ (tree : Node) (lexemes inner : List Lexeme), Filter.parse filter = .ok tree ∧
      Lexeme.scan result.sql = some lexemes ∧ Lexeme.writeAll lexemes = result.sql.toList ∧
      (∀ name, Lexeme.identifier name ∈ lexemes → setting.queryables.admits name = true ∧
        ∃ node ∈ tree.preorder, node.rule = .propertyName ∧
          Identifier.unquote node.text = name) ∧
      (∀ content, Lexeme.string content ∈ lexemes →
        content = "now" ∨ content = "[]" ∨ content = "\x7b\x7d") ∧
      lexemes = Lexeme.mark '(' :: inner ++ [Lexeme.mark ')'] ∧ Lexeme.Balanced inner ∧
      Lexeme.Balanced lexemes ∧ Lexeme.mark ';' ∉ lexemes ∧
      ¬ [Lexeme.mark '-', Lexeme.mark '-'] <:+: lexemes ∧
      ¬ [Lexeme.mark '/', Lexeme.mark '*'] <:+: lexemes := by
  obtain ⟨tree, accepted⟩ : ∃ tree, Filter.parse filter = .ok tree := by
    cases parsed : Filter.parse filter with
    | error errors => simp [compile, written, parsed] at compiled
    | ok tree => exact ⟨tree, rfl⟩
  have formed := Filter.formed_of_parse accepted
  cases done : setting.translate tree {} with
  | error reason =>
      rw [compile_error accepted done] at compiled
      cases compiled
  | ok pair =>
      obtain ⟨operands, bindings⟩ := pair
      obtain ⟨sql, rfl, same⟩ := compile_ok accepted done
      rw [same] at compiled
      cases compiled
      let allowed (name : String) : Prop := setting.queryables.admits name = true ∧
        ∃ node ∈ tree.preorder, node.rule = .propertyName ∧ Identifier.unquote node.text = name
      have safe : ∀ operand ∈ [Operand.closed sql], operand.Safe allowed :=
        translate_safe formed (fun node below named known => ⟨known, node, below, named, rfl⟩) done
      obtain ⟨inner, sound, balanced, text⟩ := (List.forall_mem_singleton.1 safe).2 rfl
      have whole := sound.grouped
      refine ⟨tree, _, inner, accepted, whole.scan_eq text, text, ?_, ?_, rfl, balanced,
        balanced.grouped, ?_, whole.not_infix (by decide), whole.not_infix (by decide)⟩
      · exact fun name among => whole.each _ among
      · intro content among
        have fixed : content ∈ Lexeme.fixedStrings := whole.each _ among
        simpa [Lexeme.fixedStrings] using fixed
      · intro among
        exact (whole.each _ among).2 rfl

/-- A column whose name closes the quotation, the bracket and the statement and then begins a
comment stays between its quotes. -/
theorem compile_sql_safe_hostile :
    ∃ (result : SqlFilter) (lexemes : List Lexeme),
      compile { dialect := .geoPackage } "\"a\"\"); --\" = 1" = .ok result ∧
      Lexeme.scan result.sql = some lexemes ∧ Lexeme.mark ';' ∉ lexemes ∧
      ¬ [Lexeme.mark '-', Lexeme.mark '-'] <:+: lexemes := by
  have evaluated : (compile { dialect := .geoPackage } "\"a\"\"); --\" = 1").isOk = true := by
    decide +kernel
  cases compiled : compile { dialect := .geoPackage } "\"a\"\"); --\" = 1" with
  | error reason => rw [compiled] at evaluated; cases evaluated
  | ok result =>
      obtain ⟨_, lexemes, _, _, scanned, _, _, _, _, _, _, stop, comment, _⟩ :=
        compile_sql_safe { dialect := .geoPackage } (by decide) compiled
      exact ⟨result, lexemes, rfl, scanned, stop, comment⟩

end Setting

end Cql
