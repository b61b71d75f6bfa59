import Cql.Proofs.Compile.PairedAction

/-!
# Translations that pair

Two translations of one filter run in step when nothing but their literals tells them apart: they
pass the same nodes in the same order, and what they make of operands that pair are operands that
pair. What is particular to two translations is how they place a literal, and that is all that has
to be proved about them. The two may differ in the dialect, in the placement of literals and in the
source of names.

The names come first: translations that differ in the source of names bind the same values one by
one, with the name of a value in one of them standing where the name of the same value stands in the
other. A translation runs in step with itself, too, which says where the pieces of its operands come
from.
-/

namespace Cql

open Cql.Sql Cql.Grammar

/-! ## Two translations in step -/

/-- How two translations of one filter correspond. At every stage there is a relation between their
fragments and one between the parameters that they have bound, and passing literals leads from one
stage to the next. Each of the two may go wrong alone, for reasons that excuse it. -/
structure Lockstep (one two : Setting) (Stage : Type) where
  rel : Stage → Fragment → Fragment → Prop
  bound : Stage → Bindings → Bindings → Prop
  leads : List Node → Stage → Stage → Prop
  excused : CompileError → Prop
  excusedToo : CompileError → Prop
  queryables : one.queryables = two.queryables
  able : one.dialect = two.dialect ∨
    one.dialect = .geoPackage ∧ excused (.inexpressible "ACCENTI" "GeoPackage")
  matching (stage : Stage) : one.dialect.TimedMatching two.dialect (rel stage)
  stays (stage : Stage) : leads [] stage stage
  trans {nodes others : List Node} {first second third : Stage} (front : leads nodes first second)
    (back : leads others second third) : leads (nodes ++ others) first third
  kept {nodes : List Node} {first second : Stage} (passed : leads nodes first second)
    {sql other : Fragment} (paired : rel first sql other) : rel second sql other

namespace Lockstep

variable {one two : Setting} {Stage : Type} (run : Lockstep one two Stage)

abbrev Pairs (stage : Stage) : List Operand → List Operand → Prop :=
  List.Forall₂ (Operand.Paired one.dialect two.dialect (run.rel stage))

/-- The outcome of two translations that start at a stage and pass literals: operands that pair at a
later stage, one reason for both up to the dialect that it names, or a reason that excuses one. -/
inductive Outcome (stage : Stage) (passed : List Node) :
    Except CompileError (List Operand × Bindings) →
      Except CompileError (List Operand × Bindings) → Prop where
  | ok {later : Stage} {operands others : List Operand} {after after' : Bindings}
      (leads : run.leads passed stage later) (bound : run.bound later after after')
      (paired : run.Pairs later operands others) :
      Outcome stage passed (.ok (operands, after)) (.ok (others, after'))
  | error (reason : CompileError) :
      Outcome stage passed (.error (reason.inDialect one.dialect.name))
        (.error (reason.inDialect two.dialect.name))
  | first {reason : CompileError} (excuse : run.excused reason)
      (other : Except CompileError (List Operand × Bindings)) :
      Outcome stage passed (.error reason) other
  | second {reason : CompileError} (excuse : run.excusedToo reason)
      (other : Except CompileError (List Operand × Bindings)) :
      Outcome stage passed other (.error reason)

variable {run} {stage : Stage} {passed further : List Node}
  {result result' : Except CompileError (List Operand × Bindings)}

/-- Translations that are in step and go on in step are in step. -/
theorem Outcome.bind {next next' : List Operand × Bindings →
      Except CompileError (List Operand × Bindings)}
    (outcome : run.Outcome stage passed result result')
    (goesOn : ∀ {later : Stage} {operands others : List Operand} {after after' : Bindings},
      run.bound later after after' → run.Pairs later operands others →
        run.Outcome later further (next (operands, after)) (next' (others, after'))) :
    run.Outcome stage (passed ++ further) (result.bind next) (result'.bind next') := by
  cases outcome with
  | error reason => exact .error reason
  | first excuse other => exact .first excuse _
  | second excuse other => exact .second excuse _
  | ok leads bound paired =>
      change run.Outcome stage (passed ++ further) (next _) (next' _)
      have rest := goesOn bound paired
      generalize next _ = final at rest
      generalize next' _ = final' at rest
      cases rest with
      | error reason => exact .error reason
      | first excuse other => exact .first excuse _
      | second excuse other => exact .second excuse _
      | ok more bound paired => exact .ok (run.trans leads more) bound paired

/-- Operands that pair may stand before the others. -/
theorem Outcome.prepend {front front' : List Operand} (paired : run.Pairs stage front front')
    (outcome : run.Outcome stage passed result result') :
    run.Outcome stage passed (result.map fun done => (front ++ done.1, done.2))
      (result'.map fun done => (front' ++ done.1, done.2)) := by
  cases outcome with
  | error reason => exact .error reason
  | first excuse other => exact .first excuse _
  | second excuse other => exact .second excuse _
  | ok leads bound rest =>
      have kept := List.Forall₂.imp (fun _ _ paired =>
        Operand.Paired.mono (fun _ _ => run.kept leads) paired) paired
      exact .ok leads bound (List.rel_append kept rest)

variable {before before' : Bindings}

/-- Actions that pair keep two translations in step. -/
theorem Outcome.assemble {action action' : Action}
    (acts : action.Paired one.dialect two.dialect run.excused (run.rel stage) action')
    (bound : run.bound stage before before') {parts parts' : List Operand}
    (paired : run.Pairs stage parts parts') :
    run.Outcome stage [] (one.assemble action parts before)
      (two.assemble action' parts' before') := by
  cases acts with
  | keep => exact .ok (run.stays stage) bound paired
  | push operand => exact .ok (run.stays stage) bound (.cons operand .nil)
  | combine result => exact .ok (run.stays stage) bound (.cons (result _ _ paired) .nil)
  | refuse reason => exact .error reason
  | alone other excuse => exact .first excuse _

/-- Several nodes are translated in step when each of them is. -/
theorem translateAll_outcome {nodes : List Node}
    (each : ∀ node ∈ nodes, ∀ {stage : Stage} {before before' : Bindings},
      run.bound stage before before' → run.Outcome stage node.literals (one.translate node before)
        (two.translate node before')) (bound : run.bound stage before before') :
    run.Outcome stage (nodes.flatMap Node.literals) (one.translateAll nodes before)
      (two.translateAll nodes before') := by
  induction nodes generalizing stage before before' with
  | nil =>
      rw [Setting.translateAll, Setting.translateAll]
      exact .ok (run.stays stage) bound .nil
  | cons node nodes ih =>
      rw [Setting.translateAll, Setting.translateAll, List.flatMap_cons]
      refine (each node (List.mem_cons_self ..) bound).bind fun bound paired => ?_
      exact (ih (fun other among => each other (List.mem_cons_of_mem _ among)) bound).prepend paired

def PlacesLiterals (run : Lockstep one two Stage) : Prop :=
  ∀ (node : Node) (stage : Stage) (before before' : Bindings), node.Formed →
    node.rule.isLiteral = true → run.bound stage before before' →
      run.Outcome stage [node] (one.assemble (one.action false node) [] before)
        (two.assemble (two.action false node) [] before')

theorem assemble_literal (setting : Setting) {node : Node} (formed : node.Formed)
    (literal : node.rule.isLiteral = true) (parts : List Operand) (bindings : Bindings) :
    setting.assemble (setting.action false node) parts bindings
      = setting.assemble (setting.action false node) [] bindings := by
  cases placed : setting.placement node with
  | bound =>
      rw [Setting.action_of_bound formed literal placed]
      rfl
  | inline =>
      rw [Setting.action_of_inline placed]
      rfl

theorem translate_outcome (places : run.PlacesLiterals) {node : Node} (formed : node.Formed)
    (bound : run.bound stage before before') :
    run.Outcome stage node.literals (one.translate node before) (two.translate node before') := by
  induction formed using Node.Formed.induction generalizing stage before before' with
  | step node formed ih =>
      have literals := Setting.literals_eq formed
      by_cases collection : node.rule = .geometryCollection
      · have literal : node.rule.isLiteral = true := by rw [collection]; rfl
        rw [one.translate_collection before collection, two.translate_collection before' collection,
          literals, if_pos collection, if_pos literal]
        exact places _ _ _ _ formed literal bound
      · rw [one.translate_eq before collection, two.translate_eq before' collection, literals,
          if_neg collection]
        have inner := translateAll_outcome (fun child among => ih child among) bound
        refine inner.bind fun bound paired => ?_
        by_cases literal : node.rule.isLiteral = true
        · rw [if_pos literal, assemble_literal one formed literal,
            assemble_literal two formed literal]
          exact places _ _ _ _ formed literal bound
        · rw [if_neg literal]
          exact .assemble (Setting.action_paired (run.matching _) formed
            (Bool.eq_false_iff.2 literal) run.queryables run.able) bound paired

/-- Two compilations in step of one filter: one is excused, both go wrong for one reason up to the
dialect that it names, or both have SQL that pairs. -/
theorem compile_outcome (places : run.PlacesLiterals) {filter : String} {tree : Node}
    (accepted : Filter.parse filter = .ok tree) (start : run.bound stage {} {}) :
    (∃ reason, run.excused reason ∧ one.compile filter = .error reason) ∨
    (∃ reason, run.excusedToo reason ∧ two.compile filter = .error reason) ∨
    (∃ reason : CompileError,
      one.compile filter = .error (reason.inDialect one.dialect.name) ∧
      two.compile filter = .error (reason.inDialect two.dialect.name)) ∨
    ∃ (later : Stage) (sql other : Fragment) (after after' : Bindings),
      one.translate tree {} = .ok ([.closed sql], after) ∧
      two.translate tree {} = .ok ([.closed other], after') ∧
      run.leads tree.literals stage later ∧ run.bound later after after' ∧
      run.rel later sql other := by
  have outcome := translate_outcome places (Filter.formed_of_parse accepted) start
  generalize done : one.translate tree {} = result at outcome
  generalize done' : two.translate tree {} = result' at outcome
  cases outcome with
  | error reason =>
      exact .inr (.inr (.inl
        ⟨reason, Setting.compile_error accepted done, Setting.compile_error accepted done'⟩))
  | first excuse other => exact .inl ⟨_, excuse, Setting.compile_error accepted done⟩
  | second excuse other => exact .inr (.inl ⟨_, excuse, Setting.compile_error accepted done'⟩)
  | ok leads bound paired =>
      obtain ⟨sql, rfl, _⟩ := Setting.compile_ok accepted done
      obtain ⟨other, rfl, _⟩ := Setting.compile_ok accepted done'
      cases List.forall₂_cons.1 paired |>.1 with
      | expr same chained =>
          exact .inr (.inr (.inr ⟨_, sql, other, _, _, rfl, rfl, leads, bound, same⟩))

/-! ### Literals -/

/-- The operands of a literal pair when its placeholders do, those of numbers and truth values also
with a type. -/
theorem boundOperand_paired {one two : Dialect} {rel : Fragment → Fragment → Prop}
    (matching : one.Matching two rel) {node : Node} {sql other : Fragment} (paired : rel sql other)
    (typed : node.rule.isScalar = true → rel (one.castScalar sql) (two.castScalar other)) :
    (node.boundOperand sql).Paired one two rel (node.boundOperand other) := by
  obtain ⟨rule, offset, text, children⟩ := node
  cases rule with
  | numericLiteral | westBoundLon | southBoundLat | eastBoundLon | northBoundLat
  | booleanLiteral => exact .scalar paired (typed rfl)
  | geometryLiteral | geometryCollection =>
      exact .loose matching.toPairing (Dialect.geometryOf_paired matching paired)
  | _ => exact .loose matching.toPairing paired

theorem inlineText_fixed {setting : Setting} {node : Node} (formed : node.Formed)
    (placed : setting.placement node = .inline) : isFixed node.inlineText = true := by
  obtain ⟨rule, offset, text, children⟩ := node
  cases rule with
  | numericLiteral | westBoundLon | southBoundLat | eastBoundLon | northBoundLat =>
      exact isFixed_of_takes (formed.taken rfl) (by decide)
  | booleanLiteral =>
      simp only [Node.inlineText]
      split <;> decide
  | _ => cases placed

/-- Two translations that bind a value under names of their own: both find a name or none, and the
placeholders pair, as they stand and with a type. -/
def BindsInStep (run : Lockstep one two Stage) : Prop :=
  ∀ (stage : Stage) (before before' : Bindings) (node : Node), run.bound stage before before' →
    (∃ reason : CompileError,
      before.bind one.dialect.sigil one.draws (one.boundValue node)
        = .error (reason.inDialect one.dialect.name) ∧
      before'.bind two.dialect.sigil two.draws (two.boundValue node)
        = .error (reason.inDialect two.dialect.name)) ∨
    ∃ (later : Stage) (sql other : Fragment) (after after' : Bindings),
      before.bind one.dialect.sigil one.draws (one.boundValue node) = .ok (sql, after) ∧
      before'.bind two.dialect.sigil two.draws (two.boundValue node) = .ok (other, after') ∧
      run.leads [node] stage later ∧ run.bound later after after' ∧ run.rel later sql other ∧
      run.rel later (one.dialect.castScalar sql) (two.dialect.castScalar other)

/-- Translations with one placement of literals place them in step when they bind in step. -/
theorem placesLiterals_of_binds (same : one.literals = two.literals) (binds : run.BindsInStep)
    (passes : ∀ stage node, run.leads [node] stage stage) : run.PlacesLiterals := by
  intro node stage before before' formed literal bound
  have placements : one.placement node = two.placement node := by
    simp only [Setting.placement, same]
  cases placed : one.placement node with
  | inline =>
      rw [Setting.action_of_inline placed, Setting.action_of_inline (placements.symm.trans placed)]
      have text := (run.matching stage).text (inlineText_fixed formed placed)
      exact .ok (passes stage node) bound (.cons (.scalar text text) .nil)
  | bound =>
      rw [Setting.action_of_bound formed literal placed,
        Setting.action_of_bound formed literal (placements.symm.trans placed)]
      simp only [Setting.assemble]
      rcases binds _ _ _ node bound with ⟨reason, wrong, wrong'⟩ |
        ⟨later, sql, other, after, after', done, done', leads, bound, paired, typed⟩
      · rw [wrong, wrong']
        exact .error reason
      · rw [done, done']
        exact .ok leads bound
          (.cons (boundOperand_paired (run.matching later).toMatching paired fun _ => typed) .nil)

end Lockstep

/-! ## Names drawn from two sources -/

/-- The pieces are the same, but for the names of parameters, which stand at the same place in two
lists of names. -/
inductive Sql.Piece.SameSlot (sigil : Char) (names others : List String) :
    Piece → Piece → Prop where
  | text {sql : String} (inert : isInert sql = true) :
      SameSlot sigil names others (.text sql) (.text sql)
  | column (name : String) : SameSlot sigil names others (.column name) (.column name)
  | placeholder {slot : Nat} {name other : String} (here : names[slot]? = some name)
      (there : others[slot]? = some other) :
      SameSlot sigil names others (.placeholder sigil name) (.placeholder sigil other)

namespace Sql.Piece.SameSlot

variable {sigil : Char} {names others : List String}

theorem pairing : InertPairing (Fragment.Paired (SameSlot sigil names others)) := by
  refine Fragment.pairing (fun inert => .text inert) (fun name => .column name) fun same => ?_
  cases same with
  | text inert => rfl
  | column name => rfl
  | placeholder here there => simp [Piece.render]

/-- Further names make no difference to those that are there. -/
theorem extend {names' others' : List String} (longer : names <+: names')
    (longer' : others <+: others') {piece other : Piece}
    (same : SameSlot sigil names others piece other) :
    SameSlot sigil names' others' piece other := by
  have kept {xs ys : List String} {slot : Nat} {name : String} (front : xs <+: ys)
      (here : xs[slot]? = some name) : ys[slot]? = some name := by
    obtain ⟨more, rfl⟩ := front
    obtain ⟨bound, _⟩ := List.getElem?_eq_some_iff.1 here
    rw [List.getElem?_append_left bound, here]
  cases same with
  | text inert => exact .text inert
  | column name => exact .column name
  | placeholder here there => exact .placeholder (kept longer here) (kept longer' there)

end Sql.Piece.SameSlot

/-- As many parameters are bound, under names that are different from each other. -/
structure Bindings.Twin (one two : Bindings) : Prop where
  length : one.names.length = two.names.length
  distinct : ParameterName.Distinct one.names
  distinctToo : ParameterName.Distinct two.names

theorem Bindings.Twin.start : Bindings.Twin {} {} :=
  ⟨rfl, ⟨List.nodup_nil, fun _ among => nomatch among⟩,
    ⟨List.nodup_nil, fun _ among => nomatch among⟩⟩

/-- Two translations in step: both go wrong for the same reason, or they have operands that pair and
as many further names. -/
inductive InStep (sigil : Char) (before before' : Bindings) :
    Except CompileError (List Operand × Bindings) →
      Except CompileError (List Operand × Bindings) → Prop where
  | error (reason : CompileError) : InStep sigil before before' (.error reason) (.error reason)
  | ok {dialect : Dialect} {operands others : List Operand} {after after' : Bindings}
      (paired : List.Forall₂ (Operand.Paired dialect dialect
        (Fragment.Paired (Piece.SameSlot sigil after.names after'.names))) operands others)
      (twin : after.Twin after') (longer : before.names <+: after.names)
      (longer' : before'.names <+: after'.names) :
      InStep sigil before before' (.ok (operands, after)) (.ok (others, after'))

namespace Setting

variable {setting : Setting}

/-- Translations that differ in the source of names, where a stage is what names were drawn. -/
def redrawn (setting : Setting) (draws : Draws) :
    Lockstep setting { setting with draws := draws } (List String × List String) where
  rel stage := Fragment.Paired (Piece.SameSlot setting.dialect.sigil stage.1 stage.2)
  bound stage before before' :=
    before.names = stage.1 ∧ before'.names = stage.2 ∧ before.Twin before'
  leads _ first second := first.1 <+: second.1 ∧ first.2 <+: second.2
  excused _ := False
  excusedToo _ := False
  queryables := rfl
  able := .inl rfl
  matching _ := Dialect.timedMatching_self Piece.SameSlot.pairing _
  stays _ := ⟨List.prefix_refl _, List.prefix_refl _⟩
  trans front back := ⟨front.1.trans back.1, front.2.trans back.2⟩
  kept passed _ _ paired :=
    List.Forall₂.imp (fun _ _ => Piece.SameSlot.extend passed.1 passed.2) paired

/-- Binding goes wrong in both translations or in none. -/
theorem redrawn_binds (draws : Draws) : (setting.redrawn draws).BindsInStep := by
  rintro ⟨_, _⟩ before before' node ⟨rfl, rfl, twin⟩
  cases bound : before.bind setting.dialect.sigil setting.draws (setting.boundValue node) with
  | error reason =>
      obtain ⟨rfl, full⟩ := Bindings.exhausted_of_bind twin.distinct bound
      cases bound' : before'.bind setting.dialect.sigil draws (setting.boundValue node) with
      | error reason =>
          obtain ⟨rfl, _⟩ := Bindings.exhausted_of_bind twin.distinctToo bound'
          exact .inl ⟨.fault "bound parameter names exhausted", rfl, bound'⟩
      | ok pair =>
          obtain ⟨_, _, room⟩ := Bindings.names_of_bind twin.distinctToo bound'
          have := twin.length
          omega
  | ok pair =>
      obtain ⟨distinct, more, room⟩ := Bindings.names_of_bind twin.distinct bound
      cases bound' : before'.bind setting.dialect.sigil draws (setting.boundValue node) with
      | error reason =>
          obtain ⟨_, full⟩ := Bindings.exhausted_of_bind twin.distinctToo bound'
          have := twin.length
          omega
      | ok pair' =>
          obtain ⟨distinct', more', _⟩ := Bindings.names_of_bind twin.distinctToo bound'
          obtain ⟨name, drawn, _, one, two⟩ := Bindings.fresh_of_bind_ok bound
          obtain ⟨name', drawn', _, one', two'⟩ := Bindings.fresh_of_bind_ok bound'
          have names : pair.2.names = before.names ++ [name] := by
            rw [two]
            simp [Bindings.names]
          have names' : pair'.2.names = before'.names ++ [name'] := by
            rw [two']
            simp [Bindings.names]
          have slot : Piece.SameSlot setting.dialect.sigil pair.2.names pair'.2.names
              (.placeholder setting.dialect.sigil name)
              (.placeholder setting.dialect.sigil name') := by
            rw [names, names']
            exact .placeholder List.getElem?_concat_length
              (by rw [twin.length]; exact List.getElem?_concat_length)
          refine .inr ⟨(pair.2.names, pair'.2.names), pair.1, pair'.1, pair.2, pair'.2, rfl, bound',
            ⟨⟨[name], names.symm⟩, ⟨[name'], names'.symm⟩⟩, ⟨rfl, rfl, ?_, distinct, distinct'⟩,
            ?_, ?_⟩
          · rw [more, more', twin.length]
          · rw [one, one']
            exact .cons slot .nil
          · rw [one, one']
            exact Dialect.castScalar_paired Piece.SameSlot.pairing _ (.cons slot .nil)

/-- Translations that differ in the source of names only are in step. -/
theorem translate_inStep {draws : Draws} {node : Node} (formed : node.Formed)
    {before before' : Bindings} (twin : before.Twin before') :
    InStep setting.dialect.sigil before before' (setting.translate node before)
      (translate { setting with draws := draws } node before') := by
  have places : (setting.redrawn draws).PlacesLiterals :=
    Lockstep.placesLiterals_of_binds rfl (redrawn_binds draws) fun stage _ =>
      (setting.redrawn draws).stays stage
  have outcome : (setting.redrawn draws).Outcome (before.names, before'.names) node.literals
      (setting.translate node before) (translate { setting with draws := draws } node before') :=
    Lockstep.translate_outcome places formed ⟨rfl, rfl, twin⟩
  generalize setting.translate node before = result at outcome
  generalize translate { setting with draws := draws } node before' = result' at outcome
  cases outcome with
  | error reason => exact .error _
  | first excuse other => exact excuse.elim
  | second excuse other => exact excuse.elim
  | @ok later operands others after after' leads bound paired =>
      obtain ⟨names, names'⟩ := later
      obtain ⟨rfl, rfl, twin⟩ := bound
      exact .ok paired twin leads.1 leads.2

end Setting

end Cql
