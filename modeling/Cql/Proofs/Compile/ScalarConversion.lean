import Cql.Proofs.Compile.Comparand
import Cql.Proofs.Compile.LiteralTemplate
import Cql.Proofs.Sql.Conversion

/-!
# Which placeholders are converted

Bound values reach the database as text. A column that a number is compared with gives it a type,
and any other number or truth value is converted in SQL for GeoPackage files. The translation finds
out piece by piece which it is, since the operand of a literal is handed on, through whatever rules
there are, to the action that first uses it.

The main statement is that, at every place where a placeholder stands in the SQL, it is converted
when the tree has no such column for its literal, and else it is not. The invariant behind it is
that each fragment is made of placeholders which are converted as the tree says, and that the only
operands for which this is open are those of literals right below a comparison.
-/

namespace Cql

open Cql.Sql Cql.Grammar

/-! ## Operands that fit -/

namespace Setting

/-- The placeholder of the literal is converted to a number. -/
def Converts (setting : Setting) (tree literal : Node) : Prop :=
  setting.dialect = .geoPackage ∧ literal.rule.isScalar = true ∧ ¬ tree.BesideColumn literal

def HasType (setting : Setting) (tree literal : Node) : Option String → Prop
  | none => ¬ setting.Converts tree literal
  | some type => setting.Converts tree literal ∧ type = "NUMERIC" ∨
      setting.dialect = .postgres ∧ literal.rule.isTemporal = true

/-- The types to which the placeholder of a name may be converted, which are those of the literal
that was bound under the name. -/
def types (setting : Setting) (tree : Node) (entries : ShownLiterals) (name : String)
    (type : Option String) : Prop :=
  ∃ literal, (literal, .bound name) ∈ entries ∧ setting.HasType tree literal type

def Alike (setting : Setting) (tree : Node) (entries : ShownLiterals) (sql other : Fragment) :
    Prop :=
  sql = other ∧ Fragment.Made setting.dialect.sigil (setting.types tree entries) sql

/-- However the operand is used as a value, placeholders are converted as the tree says. -/
def Fits (setting : Setting) (tree : Node) (entries : ShownLiterals) (operand : Operand) : Prop :=
  (setting.dialect.settle operand).Paired setting.dialect setting.dialect
    (setting.Alike tree entries) (setting.dialect.settle operand)

variable {setting : Setting} {tree node literal : Node} {entries entries' : ShownLiterals}
  {operand : Operand}

theorem alike_matching (setting : Setting) (tree : Node) (entries : ShownLiterals) :
    setting.dialect.Matching setting.dialect (setting.Alike tree entries) :=
  Dialect.matching_self Fragment.Made.pairing _

theorem types.mono (more : entries ⊆ entries') {name : String} {type : Option String}
    (known : setting.types tree entries name type) : setting.types tree entries' name type := by
  obtain ⟨literal, among, typed⟩ := known
  exact ⟨literal, more among, typed⟩

theorem Fits.mono (more : entries ⊆ entries') (fits : setting.Fits tree entries operand) :
    setting.Fits tree entries' operand :=
  Operand.Paired.mono (fun _ _ alike => ⟨alike.1, alike.2.mono fun _ _ => types.mono more⟩) fits

theorem Fits.of_paired
    (paired : operand.Paired setting.dialect setting.dialect (setting.Alike tree entries) operand) :
    setting.Fits tree entries operand := by
  cases paired with
  | scalar paired typed => exact .column typed
  | expr paired chained => exact .expr paired chained
  | column paired => exact .column paired
  | openEnd => exact .openEnd
  | interval begins ends => exact .interval begins ends

theorem made_bare {name : String} (among : (literal, .bound name) ∈ entries)
    (bare : ¬ setting.Converts tree literal) :
    Fragment.Made setting.dialect.sigil (setting.types tree entries)
      [.placeholder setting.dialect.sigil name] :=
  .part (@Fragment.IsPart.placeholder _ _ name none ⟨literal, among, bare⟩)

/-- The placeholder of a number or a truth value where no column gives it a type. -/
theorem made_castScalar {name : String} (among : (literal, .bound name) ∈ entries)
    (scalar : literal.rule.isScalar = true) (free : ¬ tree.BesideColumn literal) :
    Fragment.Made setting.dialect.sigil (setting.types tree entries)
      (setting.dialect.castScalar [.placeholder setting.dialect.sigil name]) := by
  refine Dialect.castScalar_made (fun geoPackage => ?_) fun postgres => ?_
  · exact ⟨literal, among, .inl ⟨⟨geoPackage, scalar, free⟩, rfl⟩⟩
  · refine ⟨literal, among, fun converts => ?_⟩
    cases postgres.symm.trans converts.1

/-- The operand of a literal fits, unless a column gives it a type. -/
theorem Fits.of_shown {shown : ShownLiteral} (formed : literal.Formed)
    (among : (literal, shown) ∈ entries) (shows : setting.Shows literal shown)
    (free : literal.rule.isScalar = true → ¬ tree.BesideColumn literal) :
    setting.Fits tree entries (literal.shownOperand setting.dialect shown) := by
  have matching := alike_matching setting tree entries
  cases shown with
  | inline text =>
      obtain ⟨placed, rfl⟩ := shows
      exact .column (matching.text (Lockstep.inlineText_fixed formed placed))
  | bound name =>
      cases scalar : literal.rule.isScalar with
      | true =>
          rw [Node.shownOperand, boundOperand_of_isScalar scalar]
          exact .column ⟨rfl, made_castScalar among scalar (free scalar)⟩
      | false =>
          refine .of_paired (Lockstep.boundOperand_paired matching ⟨rfl, made_bare among ?_⟩ ?_)
          · rintro ⟨_, number, _⟩
            cases scalar.symm.trans number
          · intro number
            cases scalar.symm.trans number

/-! ## What a node leaves -/

/-- What a node of a tree leaves: a literal its own operand, whatever becomes of it, and so does an
operand of a comparison that is a literal. All other operands fit, and a term leaves one of the kind
that its rule says. -/
inductive Leaves (setting : Setting) (tree : Node) (entries : ShownLiterals) :
    Node → List Operand → Prop where
  | literal {node : Node} {shown : ShownLiteral} (kind : node.rule.isLiteral = true)
      (among : (node, shown) ∈ entries) :
      Leaves setting tree entries node [node.shownOperand setting.dialect shown]
  | expression {node child : Node} {operands : List Operand}
      (kind : node.rule.isExpression = true) (only : node.children = [child])
      (leaves : Leaves setting tree entries child operands) :
      Leaves setting tree entries node operands
  | other {node : Node} {operands : List Operand} (inner : node.rule.isLiteral = false)
      (outer : node.rule.isExpression = false)
      (fits : ∀ operand ∈ operands, setting.Fits tree entries operand)
      (text : node.rule.isText = true → ∀ operand ∈ operands, operand.isText = true)
      (column : node.rule = .propertyName → ∀ operand ∈ operands, operand.isColumn = true) :
      Leaves setting tree entries node operands

theorem Leaves.mono (more : entries ⊆ entries') {operands : List Operand}
    (leaves : setting.Leaves tree entries node operands) :
    setting.Leaves tree entries' node operands := by
  induction leaves with
  | literal kind among => exact .literal kind (more among)
  | expression kind only _ ih => exact .expression kind only ih
  | other inner outer fits text column =>
      exact .other inner outer (fun operand among => (fits operand among).mono more) text column

/-- Outside comparisons and their operands, what the parts of a node leave fits. -/
theorem Leaves.fits {child : Node} {operands : List Operand} {bindings : Bindings}
    (leaves : setting.Leaves tree entries child operands)
    (passed : setting.Passed entries bindings) (placed : tree.Placed) (formed : node.Formed)
    (below : node ∈ tree.preorder) (among : child ∈ node.children)
    (apart : node.rule.isComparison = false) (outer : node.rule.isExpression = false) :
    ∀ operand ∈ operands, setting.Fits tree entries operand := by
  cases leaves with
  | literal kind member =>
      have inner := formed.children child among
      refine List.forall_mem_singleton.2 (.of_shown inner member (passed.shows _ member) ?_)
      intro scalar
      exact placed.not_besideColumn below among (inner.filled_of_isScalar scalar) outer
  | expression kind only _ =>
      rw [formed.isExpression_of_child apart among] at kind
      cases kind
  | other inner outer fits text column => exact fits

theorem fits_of_assemble (formed : node.Formed) (inner : node.rule.isLiteral = false)
    (untimed : node.rule.isInstant = false) {parts operands settled : List Operand}
    {before after : Bindings}
    (kept : setting.action false node = .keep →
      ∀ operand ∈ parts, setting.Fits tree entries operand)
    (paired : ∀ operand ∈ settled, operand.Paired setting.dialect setting.dialect
      (setting.Alike tree entries) operand)
    (same : ∀ count result, setting.action false node = .combine count result →
      result settled = result parts)
    (put : setting.assemble (setting.action false node) parts before = .ok (operands, after)) :
    after = before ∧ ∀ operand ∈ operands, setting.Fits tree entries operand := by
  have pairs : (setting.action false node).Paired setting.dialect setting.dialect (fun _ => False)
      (setting.Alike tree entries) (setting.action false node) :=
    action_paired_of_not_isInstant (alike_matching setting tree entries) formed inner untimed rfl
      (.inl rfl)
  cases acts : setting.action false node with
  | keep =>
      rw [acts] at put
      cases put
      exact ⟨rfl, kept acts⟩
  | push operand =>
      rw [acts] at put pairs
      cases put
      cases pairs with
      | push paired => exact ⟨rfl, List.forall_mem_singleton.2 (.of_paired paired)⟩
  | bind value wrap =>
      rw [acts] at pairs
      cases pairs
  | combine count result =>
      rw [acts] at put pairs
      cases put
      cases pairs with
      | combine pairs =>
          refine ⟨rfl, List.forall_mem_singleton.2 (.of_paired ?_)⟩
          rw [← same count result acts]
          exact pairs settled settled (List.forall₂_same.2 paired)
  | refuse reason =>
      rw [acts] at put
      cases put

abbrev LeaveEach (setting : Setting) (tree : Node) (entries : ShownLiterals) :
    List Node → List (List Operand) → Prop :=
  List.Forall₂ fun node operands =>
    setting.Leaves tree entries node operands ∧ operands.length = node.operandCount

theorem LeaveEach.forall_mem {nodes : List Node} {parts : List (List Operand)}
    (each : setting.LeaveEach tree entries nodes parts) {holds : Operand → Prop}
    (one : ∀ node ∈ nodes, ∀ operands, setting.Leaves tree entries node operands →
      operands.length = node.operandCount → ∀ operand ∈ operands, holds operand) :
    ∀ operand ∈ parts.flatten, holds operand := by
  induction each with
  | nil => exact List.forall_mem_nil _
  | cons first _ ih =>
      obtain ⟨front, back⟩ := List.forall_mem_cons.1 one
      rw [List.flatten_cons, List.forall_mem_append]
      exact ⟨front _ first.1 first.2, ih back⟩

theorem Leaves.of_isTemporal {operands : List Operand} {bindings : Bindings}
    (leaves : setting.Leaves tree entries node operands)
    (passed : setting.Passed entries bindings) (temporal : node.rule.isTemporal = true) :
    ∃ name, (node, .bound name) ∈ entries ∧
      operands = [.loose [.placeholder setting.dialect.sigil name]] := by
  obtain ⟨rule, offset, text, children⟩ := node
  cases rule with
  | dateString | timestampString =>
      cases leaves with
      | @literal _ shown _ among =>
          cases shown with
          | inline text => cases isScalar_of_inline (passed.shows _ among).1
          | bound name => exact ⟨name, among, rfl⟩
      | expression kind _ _ => cases kind
      | other inner _ _ _ _ => cases inner
  | _ => cases temporal

theorem made_time {name : String} (among : (literal, .bound name) ∈ entries)
    (temporal : literal.rule.isTemporal = true) :
    Fragment.Made setting.dialect.sigil (setting.types tree entries)
        (setting.dialect.dateOf [.placeholder setting.dialect.sigil name]) ∧
      Fragment.Made setting.dialect.sigil (setting.types tree entries)
        (setting.dialect.momentOf [.placeholder setting.dialect.sigil name]) := by
  refine Dialect.timeOf_made (fun _ => ⟨literal, among, ?_⟩) fun postgres type =>
    ⟨literal, among, .inr ⟨postgres, temporal⟩⟩
  rintro ⟨_, scalar, _⟩
  generalize literal.rule = rule at temporal scalar
  cases rule <;> cases temporal <;> cases scalar

/-- Points in time fit, whether they are left as they are or read from a date or a time. -/
theorem fits_of_instant {bindings : Bindings} (passed : setting.Passed entries bindings)
    (formed : node.Formed) (timed : node.rule.isInstant = true) {parts : List (List Operand)}
    (each : setting.LeaveEach tree entries node.children parts)
    (kept : ∀ operand ∈ parts.flatten, setting.Fits tree entries operand) {operands : List Operand}
    {before after : Bindings}
    (put : setting.assemble (setting.instant node) parts.flatten before = .ok (operands, after)) :
    after = before ∧ ∀ operand ∈ operands, setting.Fits tree entries operand := by
  rcases setting.instant_eq_keep_or formed timed with keeps | times
  · rw [keeps] at put
    cases put
    exact ⟨rfl, kept⟩
  · have read : ∀ operand ∈ parts.flatten, ∃ literal name, (literal, .bound name) ∈ entries ∧
        literal.rule.isTemporal = true ∧
        operand = .loose [.placeholder setting.dialect.sigil name] := by
      refine each.forall_mem fun child among own leaves length => ?_
      rcases times child among with temporal | without
      · obtain ⟨name, member, rfl⟩ := leaves.of_isTemporal passed temporal
        exact List.forall_mem_singleton.2 ⟨child, name, member, temporal, rfl⟩
      · rw [Node.operandCount_of_rule without] at length
        rw [List.length_eq_zero_iff.1 length]
        exact List.forall_mem_nil _
    have pairing := (alike_matching setting tree entries).toPairing
    have timed {time : Fragment → Fragment}
        (made : ∀ literal name, (literal, .bound name) ∈ entries →
          literal.rule.isTemporal = true → Fragment.Made setting.dialect.sigil
            (setting.types tree entries) (time [.placeholder setting.dialect.sigil name]))
        (put : setting.assemble
          (.combine1 fun operand => .loose (time (setting.dialect.value operand)))
          parts.flatten before = .ok (operands, after)) :
        after = before ∧ ∀ operand ∈ operands, setting.Fits tree entries operand := by
      cases put
      refine ⟨rfl, List.forall_mem_singleton.2 (.of_paired ?_)⟩
      dsimp only
      split
      · next operand whole =>
          obtain ⟨literal, name, among, temporal, rfl⟩ :=
            read operand (whole ▸ List.mem_singleton_self operand)
          exact .loose pairing ⟨rfl, made literal name among temporal⟩
      · exact .blank pairing
    simp only [instant] at put
    split at put
    · exact timed (fun _ _ among temporal => (made_time among temporal).1) put
    · split at put
      · exact timed (fun _ _ among temporal => (made_time among temporal).2) put
      · cases put
        exact ⟨rfl, kept⟩

/-! ## Comparisons -/

structure Compares (setting : Setting) (tree : Node) (entries : ShownLiterals) (node : Node)
    (operand : Operand) : Prop where
  isColumn : operand.isColumn = true ↔ node.rule = .propertyName
  made (beside : Bool)
    (known : node.rule.isScalar = true → (beside = true ↔ tree.BesideColumn node)) :
    Fragment.Made setting.dialect.sigil (setting.types tree entries)
      (setting.dialect.valueBeside beside operand)

theorem Compares.of_shown {shown : ShownLiteral} (formed : node.Formed)
    (scalar : node.rule.isScalar = true) (among : (node, shown) ∈ entries)
    (shows : setting.Shows node shown) :
    setting.Compares tree entries node (node.shownOperand setting.dialect shown) := by
  have property : ¬ node.rule = .propertyName := by
    intro same
    rw [same] at scalar
    cases scalar
  cases shown with
  | inline text =>
      obtain ⟨placed, rfl⟩ := shows
      refine ⟨iff_of_false Bool.false_ne_true property, fun beside _ => ?_⟩
      have text := ((alike_matching setting tree entries).text
        (Lockstep.inlineText_fixed formed placed)).2
      cases beside with
      | true => exact text
      | false => exact text
  | bound name =>
      rw [Node.shownOperand, boundOperand_of_isScalar scalar]
      refine ⟨iff_of_false Bool.false_ne_true property, fun beside known => ?_⟩
      cases beside with
      | true => exact made_bare among fun converts => converts.2.2 ((known scalar).1 rfl)
      | false =>
          exact made_castScalar among scalar fun here => Bool.false_ne_true ((known scalar).2 here)

theorem Compares.of_fits (fits : setting.Fits tree entries operand)
    (kind : operand.isText = true ∧ node.rule.isText = true ∨
      operand.isColumn = true ∧ node.rule = .propertyName) :
    setting.Compares tree entries node operand := by
  have made := (Dialect.value_paired (alike_matching setting tree entries) fits).2
  rw [Dialect.value_settle] at made
  rcases kind with ⟨text, rule⟩ | ⟨column, rule⟩
  · cases operand with
    | expr sql closed =>
        refine ⟨iff_of_false Bool.false_ne_true fun property => ?_, fun _ _ => made⟩
        rw [property] at rule
        cases rule
    | _ => cases text
  · cases operand with
    | column sql => exact ⟨iff_of_true rfl rule, fun _ _ => made⟩
    | _ => cases column

theorem Leaves.compares {operands : List Operand} {bindings : Bindings}
    (leaves : setting.Leaves tree entries node operands) (passed : setting.Passed entries bindings)
    (formed : node.Formed) (kind : node.rule.isExpression = true)
    (single : operands.length = 1) :
    List.Forall₂ (setting.Compares tree entries) node.children operands := by
  obtain ⟨operand, rfl⟩ := List.length_eq_one_iff.1 single
  cases leaves with
  | literal literal _ =>
      generalize node.rule = rule at kind literal
      cases rule <;> cases kind <;> cases literal
  | other _ outer _ _ _ =>
      rw [outer] at kind
      cases kind
  | @expression _ child _ _ only leaves =>
      have among : child ∈ node.children := only ▸ List.mem_singleton_self child
      have term := formed.isTerm_of_child kind among
      simp only [Rule.isTerm, Bool.and_eq_true, Bool.or_eq_true, Bool.not_eq_true', beq_iff_eq]
        at term
      obtain ⟨outer, term⟩ := term
      have inner := formed.children child among
      rw [only]
      refine .cons ?_ .nil
      generalize whole : [operand] = operands at leaves
      cases leaves with
      | literal literal among =>
          cases whole
          refine .of_shown inner ?_ among (passed.shows _ among)
          rcases term with (scalar | ⟨_, other⟩) | property
          · exact scalar
          · rw [literal] at other
            cases other
          · rw [property] at literal
            cases literal
      | expression nested _ _ =>
          rw [outer] at nested
          cases nested
      | other plain _ fits text column =>
          cases whole
          have here := List.mem_singleton_self operand
          refine .of_fits (fits operand here) ?_
          rcases term with (scalar | ⟨made, _⟩) | property
          · rw [Rule.isLiteral_of_isScalar scalar] at plain
            cases plain
          · exact .inl ⟨text made operand here, made⟩
          · exact .inr ⟨column property operand here, property⟩

/-- The operands of a comparison leave operands that can be compared, in their order. -/
theorem LeaveEach.compares {nodes : List Node} {parts : List (List Operand)} {bindings : Bindings}
    (each : setting.LeaveEach tree entries nodes parts) (passed : setting.Passed entries bindings)
    (formed : ∀ node ∈ nodes, node.Formed)
    (kinds : ∀ node ∈ nodes, node.rule.isExpression = true ∨ node.rule.operandCount? = some 0) :
    List.Forall₂ (setting.Compares tree entries)
      (nodes.flatMap fun node => if node.rule.isExpression then node.children else [])
      parts.flatten := by
  induction each with
  | nil => exact .nil
  | @cons node operands nodes parts first _ ih =>
      obtain ⟨leaves, length⟩ := first
      obtain ⟨here, others⟩ := List.forall_mem_cons.1 formed
      obtain ⟨kind, kinds⟩ := List.forall_mem_cons.1 kinds
      rw [List.flatMap_cons, List.flatten_cons]
      refine List.rel_append ?_ (ih others kinds)
      by_cases expression : node.rule.isExpression = true
      · have one := Node.operandCount_of_rule (Rule.operandCount?_of_isExpression expression)
        rw [if_pos expression]
        exact leaves.compares passed here expression (length.trans one)
      · rw [Node.operandCount_of_rule (kind.resolve_left expression)] at length
        rw [if_neg expression, List.length_eq_zero_iff.1 length]
        exact .nil

theorem any_isColumn_iff {nodes : List Node} {operands : List Operand}
    (all : List.Forall₂ (setting.Compares tree entries) nodes operands) :
    operands.any Operand.isColumn = true ↔ ∃ node ∈ nodes, node.rule = .propertyName := by
  induction all with
  | nil => simp
  | cons first _ ih =>
      rw [List.any_cons, Bool.or_eq_true, first.isColumn, ih, List.exists_mem_cons_iff]

theorem Compares.forall_made {nodes : List Node} {operands : List Operand}
    (all : List.Forall₂ (setting.Compares tree entries) nodes operands) (beside : Bool)
    (known : ∀ node ∈ nodes, node.rule.isScalar = true →
      (beside = true ↔ tree.BesideColumn node)) :
    ∀ value ∈ operands.map (setting.dialect.valueBeside beside),
      Fragment.Made setting.dialect.sigil (setting.types tree entries) value := by
  induction all with
  | nil => exact List.forall_mem_nil _
  | cons first _ ih =>
      obtain ⟨here, others⟩ := List.forall_mem_cons.1 known
      exact List.forall_mem_cons.2 ⟨first.made beside here, ih others⟩

theorem comparedValues_made (placed : tree.Placed) (formed : node.Formed)
    (below : node ∈ tree.preorder) (compares : node.rule.isComparison = true)
    {operands : List Operand}
    (all : List.Forall₂ (setting.Compares tree entries) node.comparands operands) :
    ∀ value ∈ setting.dialect.comparedValues operands,
      Fragment.Made setting.dialect.sigil (setting.types tree entries) value := by
  have row := (placed.of_mem_preorder below).comparands_row
  have filled {literal : Node} (among : literal ∈ node.comparands)
      (scalar : literal.rule.isScalar = true) :=
    (formed.of_mem_comparands among).filled_of_isScalar scalar
  have decided {literal : Node} (among : literal ∈ node.comparands)
      (scalar : literal.rule.isScalar = true) :=
    placed.besideColumn_iff below compares among (filled among scalar)
  generalize split : node.comparands = comparands at all
  rw [split] at row filled decided
  cases all with
  | nil => exact List.forall_mem_nil _
  | @cons first operand others operands front rest =>
      refine List.forall_mem_cons.2 ⟨front.made _ fun scalar => ?_,
        Compares.forall_made rest _ fun literal among scalar => ?_⟩
      · rw [any_isColumn_iff rest, decided (List.mem_cons_self ..) scalar,
          Node.comparesWithColumn_first split scalar]
      · have among' := List.mem_cons_of_mem first among
        have differs : literal ≠ first := by
          rintro rfl
          exact row.not_mem_tail (filled among' scalar) among
        rw [front.isColumn, decided among' scalar,
          Node.comparesWithColumn_other split among differs]

/-! ## The whole translation -/

theorem isColumn_of_translate (property : node.rule = .propertyName) {operands : List Operand}
    {before after : Bindings} (done : setting.translate node before = .ok (operands, after)) :
    ∀ operand ∈ operands, operand.isColumn = true := by
  obtain ⟨parts, mid, _, put⟩ := (translate_ok (by rw [property]; decide)).1 done
  simp only [action, property, Setting.property] at put
  split at put
  · cases put
    exact List.forall_mem_singleton.2 rfl
  · cases put

variable {before after : Bindings} {operands : List Operand}

theorem leaves_of_literal (passed : setting.Passed entries before) (formed : node.Formed)
    (literal : node.rule.isLiteral = true)
    (put : setting.assemble (setting.action false node) [] before = .ok (operands, after)) :
    ∃ longer, entries.Extends [node] longer ∧ setting.Passed longer after ∧
      setting.Leaves tree longer node operands := by
  rcases passed.literal formed literal with wrong | ⟨shown, _, done, _, next⟩
  · cases wrong.symm.trans put
  · cases done.symm.trans put
    exact ⟨_, .concat entries node shown, next,
      .literal literal (List.mem_append_right _ (List.mem_singleton_self _))⟩

theorem fits_of_comparison (placed : tree.Placed) (formed : node.Formed)
    (below : node ∈ tree.preorder) (passed : setting.Passed entries before)
    (compares : node.rule.isComparison = true) {parts : List (List Operand)}
    (each : setting.LeaveEach tree entries node.children parts)
    (put : setting.assemble (setting.action false node) parts.flatten before
      = .ok (operands, after)) :
    after = before ∧ ∀ operand ∈ operands, setting.Fits tree entries operand := by
  have all : List.Forall₂ (setting.Compares tree entries) node.comparands parts.flatten :=
    each.compares passed formed.children fun child among =>
      formed.isExpression_or_of_child compares among
  have paired : ∀ operand ∈ (setting.dialect.comparedValues parts.flatten).map Operand.column,
      operand.Paired setting.dialect setting.dialect (setting.Alike tree entries) operand :=
    List.forall_mem_map.2 fun value among =>
      .column ⟨rfl, comparedValues_made placed formed below compares all value among⟩
  have uses : (setting.action false node).UsesComparedValues setting.dialect :=
    action_usesComparedValues compares
  have kind : node.rule.isLiteral = false ∧ node.rule.isInstant = false ∧
      setting.action false node ≠ .keep := by
    obtain ⟨rule, offset, text, children⟩ := node
    cases rule with
    | binaryComparisonPredicate | isBetweenPredicate | isInListPredicate =>
        exact ⟨rfl, rfl, fun acts => by cases acts⟩
    | _ => cases compares
  refine fits_of_assemble formed kind.1 kind.2.1 (fun acts => absurd acts kind.2.2) paired ?_ put
  intro count result acts
  rw [acts] at uses
  exact uses parts.flatten

theorem leaves_of_parts (placed : tree.Placed) (formed : node.Formed)
    (below : node ∈ tree.preorder) (passed : setting.Passed entries before)
    (inner : node.rule.isLiteral = false) {parts : List (List Operand)}
    (each : setting.LeaveEach tree entries node.children parts)
    (put : setting.assemble (setting.action false node) parts.flatten before
      = .ok (operands, after))
    (text : node.rule.isText = true → ∀ operand ∈ operands, operand.isText = true)
    (column : node.rule = .propertyName → ∀ operand ∈ operands, operand.isColumn = true) :
    after = before ∧ setting.Leaves tree entries node operands := by
  cases expression : node.rule.isExpression with
  | true =>
      obtain ⟨child, only⟩ := formed.children_of_isExpression expression
      have keeps : setting.action false node = .keep := by
        generalize known : node.rule = rule at expression
        cases rule with
        | scalarExpression | numericExpression => simp only [action, known]
        | _ => cases expression
      rw [keeps] at put
      cases put
      rw [only] at each
      cases each with
      | cons first rest =>
          cases rest
          rw [List.flatten_singleton]
          exact ⟨rfl, .expression expression only first.1⟩
  | false =>
      suffices fits : after = before ∧ ∀ operand ∈ operands, setting.Fits tree entries operand from
        ⟨fits.1, .other inner expression fits.2 text column⟩
      cases comparison : node.rule.isComparison with
      | true => exact fits_of_comparison placed formed below passed comparison each put
      | false =>
          have kept : ∀ operand ∈ parts.flatten, setting.Fits tree entries operand :=
            each.forall_mem fun child among own leaves _ =>
              leaves.fits passed placed formed below among comparison expression
          cases timed : node.rule.isInstant with
          | true =>
              have acts : setting.action false node = setting.instant node := by
                obtain ⟨rule, offset, text, children⟩ := node
                cases rule with
                | instantInstance | intervalParameter => rfl
                | _ => cases timed
              rw [acts] at put
              exact fits_of_instant passed formed timed each kept put
          | false =>
              have uses : (setting.action false node).UsesValues setting.dialect :=
                action_usesValues comparison
              refine fits_of_assemble formed inner timed (fun _ => kept)
                (List.forall_mem_map.2 kept) ?_ put
              intro count result acts
              rw [acts] at uses
              exact uses parts.flatten

theorem leaveEach_of_translateAll {nodes : List Node}
    (each : ∀ node ∈ nodes, ∀ {entries : ShownLiterals} {before after : Bindings}
      {operands : List Operand}, setting.Passed entries before →
        setting.translate node before = .ok (operands, after) →
          ∃ longer, entries.Extends node.literals longer ∧ setting.Passed longer after ∧
            setting.Leaves tree longer node operands)
    (formed : ∀ node ∈ nodes, node.Formed) (passed : setting.Passed entries before)
    (done : setting.translateAll nodes before = .ok (operands, after)) :
    ∃ longer parts, entries.Extends (nodes.flatMap Node.literals) longer ∧
      setting.Passed longer after ∧ setting.LeaveEach tree longer nodes parts ∧
      operands = parts.flatten := by
  induction nodes generalizing entries before operands with
  | nil =>
      cases done
      exact ⟨entries, [], .refl entries, passed, .nil, rfl⟩
  | cons node nodes ih =>
      obtain ⟨first, mid, others, one, rest, rfl⟩ := translateAll_cons_ok.1 done
      obtain ⟨here, further⟩ := List.forall_mem_cons.1 formed
      obtain ⟨middle, more, passed', leaves⟩ := each node (List.mem_cons_self ..) passed one
      obtain ⟨longer, parts, most, passed'', all, rfl⟩ :=
        ih (fun other among => each other (List.mem_cons_of_mem _ among)) further passed' rest
      refine ⟨longer, first :: parts, ?_, passed'', .cons ⟨leaves.mono most.subset, ?_⟩ all, rfl⟩
      · rw [List.flatMap_cons]
        exact more.trans most
      · exact length_of_translate here one

theorem leaves_of_translate (placed : tree.Placed) (formed : node.Formed)
    (below : node ∈ tree.preorder) (passed : setting.Passed entries before)
    (done : setting.translate node before = .ok (operands, after)) :
    ∃ longer, entries.Extends node.literals longer ∧ setting.Passed longer after ∧
      setting.Leaves tree longer node operands := by
  induction formed using Node.Formed.induction generalizing entries before operands after with
  | step node formed ih =>
      rw [literals_eq formed]
      by_cases collection : node.rule = .geometryCollection
      · have literal : node.rule.isLiteral = true := by rw [collection]; rfl
        rw [setting.translate_collection before collection] at done
        rw [if_pos collection, if_pos literal]
        exact leaves_of_literal passed formed literal done
      · obtain ⟨parts, mid, inner, put⟩ := (translate_ok collection).1 done
        obtain ⟨middle, own, more, passed', each, rfl⟩ := leaveEach_of_translateAll
          (fun child among => ih child among (placed.mem_preorder_of_child below among))
          formed.children passed inner
        rw [if_neg collection]
        cases literal : node.rule.isLiteral with
        | true =>
            rw [Lockstep.assemble_literal setting formed literal] at put
            obtain ⟨longer, last, passed'', leaves⟩ :=
              leaves_of_literal passed' formed literal put
            rw [if_pos rfl]
            exact ⟨longer, more.trans last, passed'', leaves⟩
        | false =>
            rw [if_neg Bool.false_ne_true, List.append_nil]
            obtain ⟨rfl, leaves⟩ := leaves_of_parts placed formed below passed' literal each put
              (fun text => isText_of_translate formed text done)
              (fun property => isColumn_of_translate property done)
            exact ⟨middle, more, passed', leaves⟩

theorem made_of_translate {filter : String} (accepted : Filter.parse filter = .ok tree)
    {sql : Fragment} {bindings : Bindings}
    (done : setting.translate tree {} = .ok ([.closed sql], bindings)) :
    ∃ entries, entries.map Prod.fst = tree.literals ∧ setting.Passed entries bindings ∧
      Fragment.Made setting.dialect.sigil (setting.types tree entries) sql := by
  obtain ⟨entries, ⟨_, rfl, nodes⟩, passed, leaves⟩ :=
    leaves_of_translate (Filter.placed_of_parse accepted).2 (Filter.formed_of_parse accepted)
      (Node.self_mem_preorder tree) Passed.start done
  refine ⟨_, nodes, passed, ?_⟩
  have root := Filter.rule_of_parse accepted
  generalize whole : [Operand.closed sql] = operands at leaves
  cases leaves with
  | literal kind _ =>
      rw [root] at kind
      cases kind
  | expression kind _ _ =>
      rw [root] at kind
      cases kind
  | other _ _ fits _ _ =>
      cases whole
      exact (Dialect.value_paired (alike_matching setting tree _)
        (fits _ (List.mem_singleton_self _))).2

/-! ## What stands around placeholders -/

/-- The parameter has the value of the literal, and wherever its placeholder stands among the
lexemes, it is converted to a number if that is said of the literal and else it is not converted.
Dates and times in PostgreSQL are left aside. -/
structure ShownIn (setting : Setting) (tree : Node) (lexemes : List Lexeme) (literal : Node)
    (param : String × String) : Prop where
  value : param.2 = setting.boundValue literal
  converted {before after : List Lexeme}
    (stands : lexemes
      = before ++ (setting.dialect.sigil :: param.1.toList).map Lexeme.mark ++ after)
    (converts : setting.Converts tree literal) :
    Lexeme.marks "CAST(" <:+ before ∧ Lexeme.marks " AS NUMERIC)" <+: after
  bare {before after : List Lexeme}
    (stands : lexemes
      = before ++ (setting.dialect.sigil :: param.1.toList).map Lexeme.mark ++ after)
    (other : ¬ setting.Converts tree literal)
    (untimed : ¬ (setting.dialect = .postgres ∧ literal.rule.isTemporal = true)) :
    ¬ Lexeme.marks "CAST(" <:+ before

theorem shownIn_of_made {sql : Fragment} {bindings : Bindings}
    (settled : ∀ piece ∈ sql, piece.Settled setting.dialect.sigil bindings.names)
    (named : ∀ name ∈ bindings.names, ParameterName.IsName name)
    (passed : setting.Passed entries bindings)
    (made : Fragment.Made setting.dialect.sigil (setting.types tree entries) sql)
    {allowed : String → Prop} {lexemes : List Lexeme} (sound : Lexeme.Sound allowed lexemes)
    (written : Lexeme.writeAll lexemes = sql.render.toList) {name : String}
    (among : (literal, .bound name) ∈ entries) :
    setting.ShownIn tree lexemes literal (name, setting.boundValue literal) := by
  have forms : ∀ name type, setting.types tree entries name type → ParameterName.IsName name := by
    rintro name type ⟨literal, member, _⟩
    exact named name (passed.mem_names member)
  have plain {word : List Char} (unquoted : word.any Lexeme.isQuote = false) :
      ∀ c ∈ word, Lexeme.isQuote c = false := by
    simpa only [List.any_eq_false, Bool.not_eq_true] using unquoted
  have around {before after : List Lexeme} (stands : lexemes
      = before ++ (setting.dialect.sigil :: name.toList).map Lexeme.mark ++ after) :
      ¬ setting.Converts tree literal ∧ ¬ Lexeme.marks "CAST(" <:+ before ∨
        ∃ type, setting.HasType tree literal (some type) ∧ Lexeme.marks "CAST(" <:+ before ∧
          (" AS " ++ type ++ ")").toList <+: Lexeme.writeAll after := by
    subst stands
    obtain ⟨front, back, split, first, last⟩ :=
      split_of_placeholder settled named (named name (passed.mem_names among)) sound written
    rcases made.around_placeholder forms split with
      ⟨⟨other, member, bare⟩, blunt⟩ | ⟨type, ⟨other, member, typed⟩, opens, closes⟩
    · cases passed.literal_unique member among
      refine .inl ⟨bare, fun ⟨rest, opens⟩ => (Lexeme.isBlunt_iff.1 blunt).2 ?_⟩
      rw [first, ← opens, Lexeme.writeAll_append, Lexeme.writeAll_marks]
      exact (show ['T', '('] <:+ "CAST(".toList by decide).trans (List.suffix_append ..)
    · cases passed.literal_unique member among
      rw [first] at opens
      rw [last] at closes
      exact .inr ⟨type, typed, Lexeme.marks_suffix_of_writeAll (plain rfl) opens, closes⟩
  refine ⟨rfl, fun stands converts => ?_, fun stands other untimed opens => ?_⟩
  · rcases around stands with ⟨other, _⟩ | ⟨type, ⟨_, rfl⟩ | ⟨postgres, _⟩, opens, closes⟩
    · exact absurd converts other
    · exact ⟨opens, Lexeme.marks_prefix_of_writeAll (plain rfl) closes⟩
    · cases postgres.symm.trans converts.1
  · rcases around stands with ⟨_, closed⟩ | ⟨type, ⟨converts, _⟩ | timed, _, _⟩
    · exact closed opens
    · exact other converts
    · exact untimed timed

/-- Numbers and truth values are given a type where no column does. In the SQL of any filter that
compiles, read as the database reads it, each literal that is bound has its own parameter, and each
placeholder of a number, a truth value or a bound of a rectangle stands in a conversion to a number
in GeoPackage, unless the literal is itself an operand of a comparison and compared with a column.
No other placeholder in GeoPackage, and in PostgreSQL none but those of dates and times, stands in a
conversion. -/
theorem compile_conversions (setting : Setting) {filter : String} {result : SqlFilter}
    (compiled : setting.compile filter = .ok result) :
    ∃ lexemes, Lexeme.scan result.sql = some lexemes ∧
      ∀ tree, Filter.parse filter = .ok tree →
        List.Forall₂ (setting.ShownIn tree lexemes) (setting.boundLiterals tree)
          (setting.walk tree {}).params := by
  cases parsed : Filter.parse filter with
  | error errors =>
      simp only [compile, parsed] at compiled
      split at compiled
      · cases compiled
        exact ⟨[], rfl, fun tree impossible => by cases impossible⟩
      · cases compiled
  | ok tree =>
      have formed := Filter.formed_of_parse parsed
      obtain ⟨sql, bindings, done, rfl⟩ := translate_of_compile parsed compiled
      have follows : Compilation.Follows (setting.translate tree {}) {} (setting.walk tree {}) :=
        walk_follows formed {} rfl rfl
      rw [done] at follows
      have params : (setting.walk tree {}).params = bindings.params := by
        rw [show setting.walk tree {} = _ from follows]
        rfl
      obtain ⟨settled, distinct⟩ := settled_of_translate formed done
      have named : ∀ name ∈ bindings.names, ParameterName.IsName name := distinct.isName
      have safe : ∀ operand ∈ [Operand.closed sql], operand.Safe fun _ => True :=
        translate_safe formed (fun _ _ _ _ => trivial) done
      obtain ⟨lexemes, sound, _, written⟩ := (List.forall_mem_singleton.1 safe).1
      refine ⟨lexemes, sound.scan_eq written, fun _ same => ?_⟩
      cases same
      obtain ⟨entries, nodes, passed, made⟩ := made_of_translate parsed done
      rw [params, boundLiterals_eq_filter, ← nodes]
      exact passed.forall₂_params fun literal name among =>
        shownIn_of_made settled named passed made sound written among

/-- Two numbers beside each other are converted, and a number beside a column is not. -/
theorem compile_conversions_mixed :
    ∃ tree first second third, Filter.parse "1 < 2 AND a = 3" = .ok tree ∧
      compile { dialect := .geoPackage } "1 < 2 AND a = 3" = .ok
        ⟨"(CAST(:cql_bcde AS NUMERIC) < CAST(:cql_fghi AS NUMERIC) AND \"a\" = :cql_jklm)",
          [("cql_bcde", "1"), ("cql_fghi", "2"), ("cql_jklm", "3")]⟩ ∧
      boundLiterals { dialect := .geoPackage } tree = [first, second, third] ∧
      Converts { dialect := .geoPackage } tree first ∧
      Converts { dialect := .geoPackage } tree second ∧
      ¬ Converts { dialect := .geoPackage } tree third := by
  have evaluated : compile { dialect := .geoPackage } "1 < 2 AND a = 3" = .ok
      ⟨"(CAST(:cql_bcde AS NUMERIC) < CAST(:cql_fghi AS NUMERIC) AND \"a\" = :cql_jklm)",
        [("cql_bcde", "1"), ("cql_fghi", "2"), ("cql_jklm", "3")]⟩ := by
    decide +kernel
  have bound : (Filter.parse "1 < 2 AND a = 3").toOption.map
      (fun tree => (walk { dialect := .geoPackage } tree {}).params)
        = some [("cql_bcde", "1"), ("cql_fghi", "2"), ("cql_jklm", "3")] := by
    decide +kernel
  obtain ⟨lexemes, scanned, each⟩ := compile_conversions _ evaluated
  have read : Lexeme.scan
      "(CAST(:cql_bcde AS NUMERIC) < CAST(:cql_fghi AS NUMERIC) AND \"a\" = :cql_jklm)"
        = some (Lexeme.marks "(CAST(:cql_bcde AS NUMERIC) < CAST(:cql_fghi AS NUMERIC) AND "
          ++ .identifier "a" :: Lexeme.marks " = :cql_jklm)") := by
    decide +kernel
  cases Option.some.inj (scanned.symm.trans read)
  cases accepted : Filter.parse "1 < 2 AND a = 3" with
  | error errors =>
      rw [accepted] at bound
      cases bound
  | ok tree =>
      rw [accepted] at bound
      have params : (walk { dialect := .geoPackage } tree {}).params
          = [("cql_bcde", "1"), ("cql_fghi", "2"), ("cql_jklm", "3")] := Option.some.inj bound
      have shown := each tree accepted
      rw [params] at shown
      refine ⟨tree, ?_⟩
      generalize boundLiterals { dialect := .geoPackage } tree = literals at shown
      match shown with
      | .cons one (.cons two (.cons three .nil)) =>
          refine ⟨_, _, _, rfl, evaluated, rfl, not_not.1 fun other => ?_,
            not_not.1 fun other => ?_, fun converts => ?_⟩
          · exact @ShownIn.bare _ _ _ _ _ one (Lexeme.marks "(CAST(") _ rfl other (by simp)
              (by decide)
          · exact @ShownIn.bare _ _ _ _ _ two
              (Lexeme.marks "(CAST(:cql_bcde AS NUMERIC) < CAST(") _ rfl other (by simp) (by decide)
          · have opens := (@ShownIn.converted _ _ _ _ _ three
              (Lexeme.marks "(CAST(:cql_bcde AS NUMERIC) < CAST(:cql_fghi AS NUMERIC) AND "
                ++ .identifier "a" :: Lexeme.marks " = ") _ rfl converts).1
            revert opens
            decide

end Setting

end Cql
