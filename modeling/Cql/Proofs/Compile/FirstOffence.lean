import Cql.Proofs.Compile.FreshName
import Cql.Proofs.Compile.Translation

/-!
# The first offence

Which filters compile, and why the others do not. Five things in a filter offend: a property that
may not be used, an unknown function, a function with the wrong number of arguments, accents where
they cannot be taken off, and a value to be bound when all names are taken. A filter compiles when
nothing in it offends. Otherwise the reason is the first offence, where the parts of a node come
before the node itself.
-/

namespace Cql

open Cql.Sql Cql.Grammar

/-- A node where it stands in a filter: inside a geometry collection or not. -/
structure Occurrence where
  node : Node
  inCollection : Bool

namespace Node

mutual

def postorder (inCollection : Bool) : Node → List Occurrence
  | ⟨rule, offset, text, children⟩ =>
      postorderAll (inCollection || rule == .geometryCollection) children
        ++ [⟨⟨rule, offset, text, children⟩, inCollection⟩]

def postorderAll (inCollection : Bool) : List Node → List Occurrence
  | [] => []
  | node :: nodes => postorder inCollection node ++ postorderAll inCollection nodes

end

end Node

/-- Whether a node of the rule may offend by itself, whatever was bound before it. -/
def Rule.mayOffend : Rule → Bool
  | .propertyName | .function | .characterClause | .patternExpression => true
  | _ => false

/-- The functions that a filter may call, each with the fewest and the most arguments that it
takes. -/
def callable : List (String × Arity) :=
  [("ABS", ⟨1, some 1⟩), ("COALESCE", ⟨2, none⟩), ("LENGTH", ⟨1, some 1⟩), ("LOWER", ⟨1, some 1⟩),
   ("ROUND", ⟨1, some 2⟩), ("SUBSTR", ⟨2, some 3⟩), ("TRIM", ⟨1, some 1⟩), ("UPPER", ⟨1, some 1⟩)]

def callable? (name : String) : Option Arity :=
  (callable.find? fun function => Text.sameWord name function.1).map Prod.snd

namespace Setting

/-- Whether a node has a value that is bound to a parameter. The members of a geometry collection
are bound together with it. -/
def binds (setting : Setting) (here : Occurrence) : Bool :=
  match here.node.rule with
  | .characterLiteral | .dateString | .timestampString => true
  | .geometryLiteral | .geometryCollection => !here.inCollection
  | .numericLiteral | .westBoundLon | .southBoundLat | .eastBoundLon | .northBoundLat =>
      setting.literals.numbers == .bound
  | .booleanLiteral => setting.literals.truthValues == .bound
  | _ => false

/-- A node that comes after the given ones offends, for the given reason. -/
inductive Offends (setting : Setting) (earlier : List Occurrence) (here : Occurrence) :
    CompileError → Prop where
  /-- A property that may not be used. -/
  | property (named : here.node.rule = .propertyName)
      (forbidden : setting.queryables.admits (Identifier.unquote here.node.text) = false) :
      Offends setting earlier here (.forbiddenProperty (Identifier.unquote here.node.text))
  /-- A function that does not exist. -/
  | function (called : here.node.rule = .function)
      (unknown : callable? here.node.calledName = none) :
      Offends setting earlier here
        (.unknownFunction here.node.calledName setting.dialect.name)
  /-- A function with the wrong number of arguments. -/
  | arguments {arity : Arity} (called : here.node.rule = .function)
      (known : callable? here.node.calledName = some arity)
      (wrong : arity.admits here.node.argumentCount = false) :
      Offends setting earlier here
        (.argumentCount here.node.calledName arity.describe here.node.argumentCount)
  /-- Accents that the dialect cannot take off. -/
  | accents
      (text : here.node.rule = .characterClause ∨ here.node.rule = .patternExpression)
      (taken : here.node.includes (.keyword .accenti) = true)
      (unable : setting.dialect = .geoPackage) :
      Offends setting earlier here (.inexpressible "ACCENTI" "GeoPackage")
  /-- A value to be bound when as many values as there are names have been bound. -/
  | exhausted (bound : setting.binds here = true)
      (all : ParameterName.nameCount ≤ earlier.countP setting.binds) :
      Offends setting earlier here (.fault "bound parameter names exhausted")

/-- None of the nodes offends. -/
def Blameless (setting : Setting) (nodes : List Occurrence) : Prop :=
  ∀ earlier here later reason, nodes = earlier ++ here :: later →
    ¬ setting.Offends earlier here reason

/-- The first of the nodes that offends does so for the given reason. -/
def FirstOffence (setting : Setting) (nodes : List Occurrence) (reason : CompileError) : Prop :=
  ∃ earlier here later, nodes = earlier ++ here :: later ∧ setting.Blameless earlier ∧
    setting.Offends earlier here reason

variable {setting : Setting}

/-! ## Offences in a list of nodes -/

theorem blameless_nil : setting.Blameless [] := by
  intro earlier here later reason split
  simp at split

theorem blameless_concat {nodes : List Occurrence} {here : Occurrence}
    (before : setting.Blameless nodes) (fine : ∀ reason, ¬ setting.Offends nodes here reason) :
    setting.Blameless (nodes ++ [here]) := by
  intro earlier other later reason split
  rcases List.eq_nil_or_concat later with rfl | ⟨most, last, rfl⟩
  · obtain ⟨rfl, same⟩ := List.append_inj' split rfl
    cases same
    exact fine reason
  · rw [List.concat_eq_append, ← List.cons_append, ← List.append_assoc] at split
    exact before earlier other most reason (List.append_inj' split rfl).1

/-- The first offence stays the first when further nodes follow. -/
theorem FirstOffence.append {nodes : List Occurrence} {reason : CompileError}
    (first : setting.FirstOffence nodes reason) (more : List Occurrence) :
    setting.FirstOffence (nodes ++ more) reason := by
  obtain ⟨earlier, here, later, rfl, fine, offends⟩ := first
  exact ⟨earlier, here, later ++ more, by simp, fine, offends⟩

theorem FirstOffence.not_blameless {nodes : List Occurrence} {reason : CompileError}
    (first : setting.FirstOffence nodes reason) : ¬ setting.Blameless nodes := by
  obtain ⟨earlier, here, later, split, _, offends⟩ := first
  exact fun fine => fine earlier here later reason split offends

theorem binds_of_mayOffend {here : Occurrence} (may : here.node.rule.mayOffend = true) :
    setting.binds here = false := by
  unfold binds
  generalize here.node.rule = rule at may
  cases rule <;> first | rfl | cases may

/-- All other nodes offend only when there is no name left for their value. -/
theorem Offends.of_mayOffend {earlier : List Occurrence} {here : Occurrence} {reason : CompileError}
    (offends : setting.Offends earlier here reason) (never : here.node.rule.mayOffend = false) :
    setting.binds here = true ∧ ParameterName.nameCount ≤ earlier.countP setting.binds ∧
      reason = .fault "bound parameter names exhausted" := by
  cases offends with
  | property named forbidden => rw [named] at never; cases never
  | function called unknown => rw [called] at never; cases never
  | arguments called known wrong => rw [called] at never; cases never
  | accents text taken unable => rcases text with text | text <;> rw [text] at never <;> cases never
  | exhausted bound all => exact ⟨bound, all, rfl⟩

/-- A node offends for one reason only. -/
theorem Offends.unique {earlier : List Occurrence} {here : Occurrence} {one other : CompileError}
    (first : setting.Offends earlier here one) (second : setting.Offends earlier here other) :
    one = other := by
  by_cases may : here.node.rule.mayOffend = true
  · have silent : setting.binds here = false := binds_of_mayOffend may
    cases first <;> cases second <;> simp_all
  · have never := Bool.eq_false_iff.2 may
    rw [(first.of_mayOffend never).2.2, (second.of_mayOffend never).2.2]

/-- A node that offends is not among nodes that are blameless. -/
theorem Offends.length_le {earlier later other rest : List Occurrence} {here : Occurrence}
    {reason : CompileError} (offends : setting.Offends earlier here reason)
    (fine : setting.Blameless other) (split : earlier ++ here :: later = other ++ rest) :
    other.length ≤ earlier.length := by
  rcases List.append_eq_append_iff.1 split with ⟨gap, left, right⟩ | ⟨gap, left, _⟩
  · cases gap with
    | nil =>
        have same : other = earlier := by rw [left, List.append_nil]
        exact Nat.le_of_eq (congrArg List.length same)
    | cons skipped gap =>
        cases right
        exact absurd offends (fine _ _ _ _ left)
  · rw [left, List.length_append]
    exact Nat.le_add_right ..

/-- There is only one first offence. -/
theorem FirstOffence.unique {nodes : List Occurrence} {one other : CompileError}
    (first : setting.FirstOffence nodes one) (second : setting.FirstOffence nodes other) :
    one = other := by
  obtain ⟨earlier, here, later, rfl, fine, offends⟩ := first
  obtain ⟨earlier', here', later', split, fine', offends'⟩ := second
  have lengths : earlier.length = earlier'.length :=
    Nat.le_antisymm (offends'.length_le fine split.symm) (offends.length_le fine' split)
  obtain ⟨rfl, rest⟩ := List.append_inj split lengths
  cases rest
  exact offends.unique offends'

end Setting

/-! ## Binding -/

namespace Bindings

variable {sigil : Char} {draws : Draws} {value : String} {before after : Bindings}

/-- Binding a value takes one further name, and there was one left. -/
theorem names_of_bind (distinct : ParameterName.Distinct before.names) {placeholder : Fragment}
    (bound : before.bind sigil draws value = .ok (placeholder, after)) :
    ParameterName.Distinct after.names ∧ after.names.length = before.names.length + 1 ∧
      before.names.length < ParameterName.nameCount := by
  obtain ⟨_, drawn, found, _, rfl⟩ := fresh_of_bind_ok bound
  obtain ⟨free, index, named, rfl⟩ := ParameterName.free_of_fresh found
  have fresh : ParameterName.ofIndex index ∉ before.names := by
    intro among
    rw [isBound_iff.2 among] at free
    cases free
  have names : (⟨before.params ++ [(ParameterName.ofIndex index, value)], drawn⟩ :
      Bindings).names = before.names ++ [ParameterName.ofIndex index] := by
    simp [Bindings.names]
  rw [names]
  refine ⟨distinct.concat fresh named, by simp, Nat.lt_of_not_le fun full => ?_⟩
  exact fresh (distinct.all_iff.2 full index named)

/-- Binding a value fails only when every name is taken. -/
theorem exhausted_of_bind (distinct : ParameterName.Distinct before.names) {reason : CompileError}
    (unbound : before.bind sigil draws value = .error reason) :
    reason = .fault "bound parameter names exhausted" ∧
      ParameterName.nameCount ≤ before.names.length := by
  obtain ⟨drawn, missed, rfl⟩ := fresh_of_bind_error unbound
  refine ⟨rfl, distinct.all_iff.1 fun index named => ?_⟩
  exact isBound_iff.1 (ParameterName.taken_of_fresh missed named)

end Bindings

namespace Setting

variable {setting : Setting}

/-! ## What an action says about its node -/

/-- An action is in keeping with what its node may offend by: it binds where the node has a value
to be bound, and it refuses where the node offends by itself. -/
def Agrees (setting : Setting) (here : Occurrence) : Action → Prop
  | .bind _ _ => setting.binds here = true ∧ here.node.rule.mayOffend = false
  | .refuse reason => ∀ earlier, setting.Offends earlier here reason
  | _ => setting.binds here = false ∧ ∀ earlier reason, ¬ setting.Offends earlier here reason

/-- The parameters are those of the given nodes, one for each value to be bound, and none of the
nodes offends. -/
structure After (setting : Setting) (nodes : List Occurrence) (bindings : Bindings) : Prop where
  distinct : ParameterName.Distinct bindings.names
  count : bindings.names.length = nodes.countP setting.binds
  blameless : setting.Blameless nodes

def Outcome (setting : Setting) (nodes : List Occurrence) :
    Except CompileError (List Operand × Bindings) → Prop
  | .ok (_, bindings) => setting.After nodes bindings
  | .error reason => setting.FirstOffence nodes reason

theorem After.start : setting.After [] {} :=
  ⟨⟨List.nodup_nil, fun _ among => nomatch among⟩, rfl, blameless_nil⟩

/-- A node with nothing to bind that does not offend is passed by. -/
theorem After.pass {nodes : List Occurrence} {bindings : Bindings} {here : Occurrence}
    (after : setting.After nodes bindings) (silent : setting.binds here = false)
    (fine : ∀ reason, ¬ setting.Offends nodes here reason) :
    setting.After (nodes ++ [here]) bindings where
  distinct := after.distinct
  count := by simp [after.count, silent]
  blameless := blameless_concat after.blameless fine

/-- An action in keeping with its node goes wrong exactly when the node offends. -/
theorem assemble_outcome {nodes : List Occurrence} {bindings : Bindings} {here : Occurrence}
    {action : Action} (after : setting.After nodes bindings) (agrees : setting.Agrees here action)
    (parts : List Operand) :
    setting.Outcome (nodes ++ [here]) (setting.assemble action parts bindings) := by
  cases action with
  | keep => exact after.pass agrees.1 (agrees.2 nodes)
  | push operand => exact after.pass agrees.1 (agrees.2 nodes)
  | combine count result => exact after.pass agrees.1 (agrees.2 nodes)
  | refuse reason => exact ⟨nodes, here, [], rfl, after.blameless, agrees nodes⟩
  | bind value wrap =>
      obtain ⟨binds, never⟩ := agrees
      simp only [assemble]
      cases bound : bindings.bind setting.dialect.sigil setting.draws value with
      | error reason =>
          obtain ⟨rfl, all⟩ := Bindings.exhausted_of_bind after.distinct bound
          rw [after.count] at all
          exact ⟨nodes, here, [], rfl, after.blameless, .exhausted binds all⟩
      | ok pair =>
          obtain ⟨distinct, more, room⟩ := Bindings.names_of_bind after.distinct bound
          refine ⟨distinct, ?_, blameless_concat after.blameless fun reason offends => ?_⟩
          · rw [more, after.count]
            simp [binds]
          · rw [after.count] at room
            exact Nat.not_le_of_lt room (offends.of_mayOffend never).2.1

end Setting

/-! ## Every action is in keeping with its node -/

namespace Node

theorem Formed.lower_textOf_mem {node : Node} {rule : Rule} {rest : Phrase} (formed : node.Formed)
    (words : List String) (plain : words ≠ [] ∧ ∀ word ∈ words, Text.lower word = word)
    (begins : definition node.rule = .phrase (.ref rule ++ rest))
    (defined : definition rule = .token (.wordOf words)) :
    Text.lower (node.textOf rule) ∈ words := by
  obtain ⟨_, _, rfl, _, shape⟩ := formed.spelled begins
  obtain ⟨child, others, children, rfl, _⟩ := List.map_eq_cons_iff.1 shape
  have text : node.textOf child.rule = child.text := by
    simp [textOf, child?, children]
  have among : child ∈ node.children := by
    rw [children]
    exact List.mem_cons_self ..
  obtain ⟨word, member, same⟩ :=
    Pattern.sameWord_of_takes_wordOf plain.1 ((formed.children child among).taken defined)
  rw [text]
  exact Text.lower_mem_of_sameWord plain.2 member same

/-- A text function takes accents off where the word for it stands. -/
theorem Formed.textFunction?_accenti {node : Node} {inner : Rule} (formed : node.Formed)
    (defined : definition node.rule = .phrase (.characterCall inner))
    (other : inner ≠ .keyword .accenti) :
    node.textFunction? = some .accenti ↔ node.includes (.keyword .accenti) = true := by
  have spelled := formed.spelled defined
  rw [includes_iff, textFunction?_eq]
  simp only [Phrase.characterCall, Phrase.spells_orElse, Phrase.spells_append, Phrase.spells_kw,
    Phrase.spells_bracketed, Phrase.spells_ref, exists_and_left, exists_eq_left, List.cons_append,
    List.nil_append] at spelled
  rcases spelled with shape | shape | shape | shape | shape <;> rw [shape] <;> simp [other.symm]

end Node

namespace Setting

variable {setting : Setting}

/-- A node that binds nothing and cannot offend by itself does not offend. -/
theorem quiet {here : Occurrence} (silent : setting.binds here = false)
    (never : here.node.rule.mayOffend = false) :
    setting.binds here = false ∧ ∀ earlier reason, ¬ setting.Offends earlier here reason := by
  refine ⟨silent, fun earlier reason offends => ?_⟩
  rw [(offends.of_mayOffend never).1] at silent
  cases silent

theorem property_agrees {node : Node} {inCollection : Bool} (named : node.rule = .propertyName) :
    setting.Agrees ⟨node, inCollection⟩ (setting.property node) := by
  simp only [property]
  split
  · next allowed =>
      refine ⟨binds_of_mayOffend (by rw [named]; rfl), fun earlier reason offends => ?_⟩
      cases offends <;> simp_all [binds]
  · next forbidden => exact fun earlier => .property named (Bool.eq_false_iff.2 forbidden)

theorem arityOf?_eq_callable? (name : String) : arityOf? name = callable? name := by
  have entry (word : String) :
      (Text.lower word == Text.lower name) = Text.sameWord name word := by
    rw [Bool.eq_iff_iff, beq_iff_eq, Text.sameWord_iff, eq_comm]
  have functions : functions = callable.map fun function =>
      (Text.lower function.1, function.2) := by decide
  simp only [arityOf?, function?, functions, callable?, List.find?_map, Function.comp_def, entry,
    Option.map_map]

theorem functionCall_agrees {node : Node} {inCollection : Bool} (called : node.rule = .function) :
    setting.Agrees ⟨node, inCollection⟩ (setting.functionCall node) := by
  rcases setting.functionCall_cases node with
    ⟨unknown, refused⟩ | ⟨function, arity, _, known, counted⟩
  · rw [refused]
    exact fun earlier => .function called (arityOf?_eq_callable? _ ▸ unknown)
  · rw [arityOf?_eq_callable?] at known
    rw [counted]
    split
    · next fits =>
        refine ⟨binds_of_mayOffend (by rw [called]; rfl), fun earlier reason offends => ?_⟩
        cases offends <;> simp_all [binds]
    · next wrong => exact fun earlier => .arguments called known (Bool.eq_false_iff.2 wrong)

/-- Only accents under GeoPackage are beyond the text functions of a dialect. -/
theorem textFunction?_eq_none {dialect : Dialect} {function : TextFunction} :
    dialect.textFunction? function = none ↔ dialect = .geoPackage ∧ function = .accenti := by
  cases dialect <;> cases function <;> decide

theorem characterCall_agrees {node : Node} {inCollection : Bool} {inner : Rule}
    (formed : node.Formed)
    (text : node.rule = .characterClause ∨ node.rule = .patternExpression)
    (defined : definition node.rule = .phrase (.characterCall inner))
    (other : inner ≠ .keyword .accenti) :
    setting.Agrees ⟨node, inCollection⟩ (setting.characterCall node) := by
  have may : node.rule.mayOffend = true := by
    rcases text with text | text <;> rw [text] <;> rfl
  have silent : setting.binds ⟨node, inCollection⟩ = false := binds_of_mayOffend may
  have accents := formed.textFunction?_accenti defined other
  have cause : ∀ earlier reason, setting.Offends earlier ⟨node, inCollection⟩ reason →
      node.textFunction? = some .accenti ∧ setting.dialect = .geoPackage := by
    intro earlier reason offends
    cases offends with
    | accents _ taken unable => exact ⟨accents.2 taken, unable⟩
    | exhausted bound all => rw [silent] at bound; cases bound
    | property named _ => rcases text with text | text <;> cases text.symm.trans named
    | function called _ => rcases text with text | text <;> cases text.symm.trans called
    | arguments called _ _ => rcases text with text | text <;> cases text.symm.trans called
  simp only [characterCall]
  split
  · next plain =>
      refine ⟨silent, fun earlier reason offends => ?_⟩
      rw [(cause earlier reason offends).1] at plain
      cases plain
  · next function applied =>
      split
      · next unable =>
          obtain ⟨dialect, rfl⟩ := textFunction?_eq_none.1 unable
          intro earlier
          rw [dialect]
          exact .accents text (accents.1 applied) dialect
      · next name able =>
          refine ⟨silent, fun earlier reason offends => ?_⟩
          obtain ⟨accenti, dialect⟩ := cause earlier reason offends
          rw [applied] at accenti
          rw [textFunction?_eq_none.2 ⟨dialect, Option.some.inj accenti⟩] at able
          cases able

theorem scalar_agrees {here : Occurrence} {placement : Placement} {bound inlined : String}
    (binds : setting.binds here = (placement == .bound))
    (never : here.node.rule.mayOffend = false) :
    setting.Agrees here (scalar placement bound inlined) := by
  cases placement with
  | bound => exact ⟨binds, never⟩
  | inline => exact quiet binds never

theorem agrees_ite {here : Occurrence} {condition : Prop} [Decidable condition]
    {one other : Action} (first : setting.Agrees here one) (second : setting.Agrees here other) :
    setting.Agrees here (if condition then one else other) := by
  split
  · exact first
  · exact second

theorem action_agrees {node : Node} (formed : node.Formed) :
    setting.Agrees ⟨node, false⟩ (setting.action false node) := by
  obtain ⟨rule, offset, text, children⟩ := node
  cases rule with
  | propertyName => exact property_agrees rfl
  | function => exact functionCall_agrees rfl
  | characterClause => exact characterCall_agrees formed (.inl rfl) rfl Rule.noConfusion
  | patternExpression => exact characterCall_agrees formed (.inr rfl) rfl Rule.noConfusion
  | characterLiteral | dateString | timestampString | geometryLiteral | geometryCollection =>
      exact ⟨rfl, rfl⟩
  | numericLiteral | westBoundLon | southBoundLat | eastBoundLon | northBoundLat
  | booleanLiteral =>
      exact scalar_agrees rfl rfl
  | spatialPredicate =>
      have word := formed.lower_textOf_mem Pattern.spatialWords (by decide) rfl rfl
      obtain ⟨relation, known⟩ :=
        Option.isSome_iff_exists.1 (SpatialRelation.isSome_ofKeyword?.2 word)
      simp only [action, spatial, known]
      exact quiet rfl rfl
  | temporalPredicate =>
      have word := formed.lower_textOf_mem Pattern.temporalWords (by decide) rfl rfl
      obtain ⟨relation, known⟩ :=
        Option.isSome_iff_exists.1 (TemporalRelation.isSome_ofKeyword?.2 word)
      simp only [action, temporal, known]
      exact quiet rfl rfl
  | arrayPredicate =>
      have word := formed.lower_textOf_mem Pattern.arrayWords (by decide) rfl rfl
      obtain ⟨relation, known⟩ :=
        Option.isSome_iff_exists.1 (ArrayRelation.isSome_ofKeyword?.2 word)
      simp only [action, arrays, known]
      exact quiet rfl rfl
  | booleanExpression | booleanTerm | booleanFactor | booleanPrimary =>
      exact agrees_ite (quiet rfl rfl) (quiet rfl rfl)
  | instantInstance | intervalParameter =>
      exact agrees_ite (quiet rfl rfl) (agrees_ite (quiet rfl rfl) (quiet rfl rfl))
  | _ => exact quiet rfl rfl

/-! ## Whole filters -/

theorem postorder_eq (inCollection : Bool) (node : Node) :
    node.postorder inCollection
      = Node.postorderAll (inCollection || node.rule == .geometryCollection) node.children
        ++ [⟨node, inCollection⟩] := by
  cases node
  rw [Node.postorder]

theorem After.passAll {trees : List Node} {nodes : List Occurrence} {bindings : Bindings}
    (after : setting.After nodes bindings)
    (each : ∀ tree ∈ trees, ∀ nodes : List Occurrence, setting.After nodes bindings →
      setting.After (nodes ++ tree.postorder true) bindings) :
    setting.After (nodes ++ Node.postorderAll true trees) bindings := by
  induction trees generalizing nodes with
  | nil => rwa [Node.postorderAll, List.append_nil]
  | cons tree trees ih =>
      rw [Node.postorderAll, ← List.append_assoc]
      exact ih (each tree (List.mem_cons_self ..) nodes after)
        fun other among => each other (List.mem_cons_of_mem _ among)

/-- A part of a geometry inside a collection has no value of its own to be bound. -/
theorem binds_of_isGeometryPart (setting : Setting) {node : Node}
    (part : node.rule.isGeometryPart = true) :
    setting.binds ⟨node, true⟩ = false ∧ node.rule.mayOffend = false := by
  obtain ⟨rule, offset, text, children⟩ := node
  cases rule <;> first | exact ⟨rfl, rfl⟩ | cases part

theorem After.passGeometry {node : Node} (formed : node.Formed)
    (part : node.rule.isGeometryPart = true) {nodes : List Occurrence} {bindings : Bindings}
    (after : setting.After nodes bindings) :
    setting.After (nodes ++ node.postorder true) bindings := by
  induction formed using Node.Formed.induction generalizing nodes with
  | step node formed ih =>
      rw [postorder_eq, Bool.true_or, ← List.append_assoc]
      have inner := after.passAll fun child among nodes after =>
        ih child among (formed.isGeometryPart_of_child part among) after
      obtain ⟨silent, never⟩ := setting.binds_of_isGeometryPart part
      exact inner.pass silent ((quiet silent never).2 _)

theorem translateAll_outcome {trees : List Node} {nodes : List Occurrence} {bindings : Bindings}
    (after : setting.After nodes bindings)
    (each : ∀ tree ∈ trees, ∀ {nodes : List Occurrence} {bindings : Bindings},
      setting.After nodes bindings →
        setting.Outcome (nodes ++ tree.postorder false) (setting.translate tree bindings)) :
    setting.Outcome (nodes ++ Node.postorderAll false trees)
      (setting.translateAll trees bindings) := by
  induction trees generalizing nodes bindings with
  | nil =>
      rw [Node.postorderAll, List.append_nil, translateAll]
      exact after
  | cons tree trees ih =>
      rw [Node.postorderAll, ← List.append_assoc, translateAll]
      have front := each tree (List.mem_cons_self ..) after
      cases one : setting.translate tree bindings with
      | error reason =>
          rw [one] at front
          exact FirstOffence.append front _
      | ok pair =>
          rw [one] at front
          have back := ih front fun other among => each other (List.mem_cons_of_mem _ among)
          change setting.Outcome _ ((setting.translateAll trees pair.2).map _)
          cases rest : setting.translateAll trees pair.2 with
          | error reason => rw [rest] at back; exact back
          | ok last => rw [rest] at back; exact back

/-- Translating a node goes wrong exactly when something in it offends. -/
theorem translate_outcome {node : Node} (formed : node.Formed) {nodes : List Occurrence}
    {bindings : Bindings} (after : setting.After nodes bindings) :
    setting.Outcome (nodes ++ node.postorder false) (setting.translate node bindings) := by
  induction formed using Node.Formed.induction generalizing nodes bindings with
  | step node formed ih =>
      rw [postorder_eq, Bool.false_or, ← List.append_assoc]
      by_cases collection : node.rule = .geometryCollection
      · have inner := after.passAll fun child among nodes after =>
          After.passGeometry (formed.children child among)
            (formed.isGeometryPart_of_member collection among) after
        rw [setting.translate_collection bindings collection, beq_iff_eq.2 collection]
        exact assemble_outcome inner (action_agrees formed) []
      · have inner := translateAll_outcome after ih
        rw [setting.translate_eq bindings collection, beq_false_of_ne collection]
        cases walked : setting.translateAll node.children bindings with
        | error reason =>
            rw [walked] at inner
            exact FirstOffence.append inner _
        | ok pair =>
            rw [walked] at inner
            exact assemble_outcome inner (action_agrees formed) pair.1

/-- A filter compiles and is blameless, or it does not for the reason of its first offence. -/
theorem compile_outcome (setting : Setting) {filter : String} {tree : Node}
    (accepted : Filter.parse filter = .ok tree) :
    (∃ compiled, setting.compile filter = .ok compiled ∧
      setting.Blameless (tree.postorder false)) ∨
    ∃ reason, setting.compile filter = .error reason ∧
      setting.FirstOffence (tree.postorder false) reason := by
  have outcome : setting.Outcome (tree.postorder false) (setting.translate tree {}) :=
    translate_outcome (Filter.formed_of_parse accepted) After.start
  cases done : setting.translate tree {} with
  | error reason =>
      rw [done] at outcome
      exact .inr ⟨reason, compile_error accepted done, outcome⟩
  | ok pair =>
      rw [done] at outcome
      obtain ⟨sql, _, compiled⟩ := compile_ok accepted done
      exact .inl ⟨_, compiled, outcome.blameless⟩

/-- A filter compiles exactly when nothing in it offends, and otherwise the reason is that of the
first node that offends. So the only construct that is ever beyond a dialect are accents under
GeoPackage, and the only fault of the compilation itself is that it runs out of names. -/
theorem compile_eq_error_iff_firstOffence (setting : Setting) {filter : String} {tree : Node}
    (accepted : Filter.parse filter = .ok tree) :
    ((∃ compiled, setting.compile filter = .ok compiled) ↔
      setting.Blameless (tree.postorder false)) ∧
    (∀ reason, setting.compile filter = .error reason ↔
      setting.FirstOffence (tree.postorder false) reason) ∧
    (∀ construct dialect, setting.compile filter = .error (.inexpressible construct dialect) →
      construct = "ACCENTI" ∧ dialect = "GeoPackage" ∧ setting.dialect = .geoPackage) ∧
    (∀ detail, setting.compile filter = .error (.fault detail) →
      detail = "bound parameter names exhausted" ∧
        ParameterName.nameCount < (tree.postorder false).countP setting.binds) := by
  have errors : ∀ reason, setting.compile filter = .error reason ↔
      setting.FirstOffence (tree.postorder false) reason := by
    intro reason
    rcases setting.compile_outcome accepted with
      ⟨compiled, done, fine⟩ | ⟨other, wrong, first⟩
    · rw [done]
      constructor
      · intro failed
        cases failed
      · intro first
        exact absurd fine first.not_blameless
    · rw [wrong]
      constructor
      · intro same
        cases same
        exact first
      · intro given
        rw [first.unique given]
  refine ⟨?_, errors, ?_, ?_⟩
  · constructor
    · rintro ⟨compiled, done⟩
      rcases setting.compile_outcome accepted with ⟨_, _, fine⟩ | ⟨reason, wrong, _⟩
      · exact fine
      · rw [wrong] at done
        cases done
    · intro fine
      rcases setting.compile_outcome accepted with ⟨compiled, done, _⟩ | ⟨_, _, first⟩
      · exact ⟨compiled, done⟩
      · exact absurd fine first.not_blameless
  · intro construct dialect wrong
    obtain ⟨earlier, here, later, _, _, offends⟩ := (errors _).1 wrong
    cases offends with
    | accents text taken unable => exact ⟨rfl, rfl, unable⟩
  · intro detail wrong
    obtain ⟨earlier, here, later, whole, _, offends⟩ := (errors _).1 wrong
    cases offends with
    | exhausted bound all =>
        refine ⟨rfl, ?_⟩
        rw [whole, List.countP_append, List.countP_cons, if_pos bound]
        omega

/-- Of a forbidden property and an unknown function, the property is an argument of the function and
so comes first. -/
theorem firstOffence_argument :
    ∃ tree, Filter.parse "a = 1 AND nope(b, c) = 2" = .ok tree ∧
      FirstOffence { dialect := .geoPackage, queryables := ⟨["a", "b"]⟩ } (tree.postorder false)
        (.forbiddenProperty "c") := by
  have refused : compile { dialect := .geoPackage, queryables := ⟨["a", "b"]⟩ }
      "a = 1 AND nope(b, c) = 2" = .error (.forbiddenProperty "c") := by
    decide +kernel
  cases accepted : Filter.parse "a = 1 AND nope(b, c) = 2" with
  | error errors =>
      simp only [compile, accepted] at refused
      split at refused <;> cases refused
  | ok tree =>
      exact ⟨tree, rfl, ((compile_eq_error_iff_firstOffence _ accepted).2.1 _).1 refused⟩

end Setting

end Cql
