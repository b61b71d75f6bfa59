import Cql.Compile.Filter
import Cql.Proofs.Compile.OperandCount

/-!
# Translation part by part

A filter is compiled by a walk that keeps all operands on one stack. This module defines the
translation that the walk carries out without any stack: each part of a filter is translated on its
own, from left to right, and the operands of its parts are put together. Only the parameters bound
so far are handed on from part to part.

The main statement is that the two agree on every node of every filter: whatever is on the stack,
the walk over a node leaves it alone and puts the operand of the translation on top.
-/

namespace Cql

open Cql.Sql Cql.Grammar

/-- What one part of a translation hands on to the next: the parameters bound so far and the number
of draws made for their names. -/
structure Bindings where
  params : Parameters := []
  drawn : Nat := 0
  deriving DecidableEq, Repr

namespace Bindings

def names (bindings : Bindings) : List String :=
  bindings.params.map Prod.fst

def isBound (bindings : Bindings) (name : String) : Bool :=
  bindings.params.any fun param => param.1 == name

theorem isBound_iff {bindings : Bindings} {name : String} :
    bindings.isBound name = true ↔ name ∈ bindings.names := by
  simp [isBound, names]

/-- Binds a value to a fresh parameter and yields its placeholder. -/
def bind (sigil : Char) (draws : Draws) (value : String) (bindings : Bindings) :
    Except CompileError (Fragment × Bindings) :=
  match ParameterName.fresh bindings.isBound draws bindings.drawn with
  | (some name, drawn) =>
      .ok ([.placeholder sigil name], ⟨bindings.params ++ [(name, value)], drawn⟩)
  | (none, _) => .error (.fault "bound parameter names exhausted")

variable {sigil : Char} {draws : Draws} {value : String} {before after : Bindings}

theorem fresh_of_bind_ok {placeholder : Fragment}
    (bound : before.bind sigil draws value = .ok (placeholder, after)) :
    ∃ name drawn, ParameterName.fresh before.isBound draws before.drawn = (some name, drawn) ∧
      placeholder = [.placeholder sigil name] ∧
      after = ⟨before.params ++ [(name, value)], drawn⟩ := by
  simp only [bind] at bound
  split at bound
  · next name drawn found =>
      cases bound
      exact ⟨name, drawn, found, rfl, rfl⟩
  · cases bound

theorem fresh_of_bind_error {reason : CompileError}
    (unbound : before.bind sigil draws value = .error reason) :
    ∃ drawn, ParameterName.fresh before.isBound draws before.drawn = (none, drawn) ∧
      reason = .fault "bound parameter names exhausted" := by
  simp only [bind] at unbound
  split at unbound
  · cases unbound
  · next drawn missed =>
      cases unbound
      exact ⟨drawn, missed, rfl⟩

end Bindings

namespace Setting

def assemble (setting : Setting) (action : Action) (parts : List Operand) (bindings : Bindings) :
    Except CompileError (List Operand × Bindings) :=
  match action with
  | .keep => .ok (parts, bindings)
  | .push operand => .ok ([operand], bindings)
  | .bind value wrap =>
      (bindings.bind setting.dialect.sigil setting.draws value).map fun bound =>
        ([wrap bound.1], bound.2)
  | .combine _ result => .ok ([result parts], bindings)
  | .refuse reason => .error reason

mutual

/-- The operands of a node. The members of a geometry collection have none of their own, since the
collection is bound as a whole. -/
def translate (setting : Setting) :
    Node → Bindings → Except CompileError (List Operand × Bindings)
  | ⟨rule, offset, text, children⟩, bindings =>
      let parts :=
        if rule = .geometryCollection then .ok ([], bindings)
        else setting.translateAll children bindings
      parts.bind fun (operands, bindings) =>
        setting.assemble (setting.action false ⟨rule, offset, text, children⟩) operands bindings

def translateAll (setting : Setting) :
    List Node → Bindings → Except CompileError (List Operand × Bindings)
  | [], bindings => .ok ([], bindings)
  | node :: nodes, bindings =>
      (setting.translate node bindings).bind fun (first, bindings) =>
        (setting.translateAll nodes bindings).map fun (others, bindings) =>
          (first ++ others, bindings)

end

/-! ## Equations -/

theorem walk_eq (setting : Setting) (node : Node) (state : Compilation) :
    setting.walk node state
      = setting.leave node (setting.walkAll node.children (enter node state)) := by
  cases node
  rw [walk]

theorem translate_eq (setting : Setting) {node : Node} (bindings : Bindings)
    (single : node.rule ≠ .geometryCollection) :
    setting.translate node bindings
      = (setting.translateAll node.children bindings).bind fun done =>
          setting.assemble (setting.action false node) done.1 done.2 := by
  cases node
  rw [translate, if_neg single]

theorem translate_collection (setting : Setting) {node : Node} (bindings : Bindings)
    (collection : node.rule = .geometryCollection) :
    setting.translate node bindings
      = setting.assemble (setting.action false node) [] bindings := by
  cases node
  rw [translate, if_pos collection]
  rfl

/-- Several nodes are translated when the first of them is and then the others are. -/
theorem translateAll_cons_ok {setting : Setting} {node : Node} {nodes : List Node}
    {operands : List Operand} {before after : Bindings} :
    setting.translateAll (node :: nodes) before = .ok (operands, after) ↔
      ∃ first mid others, setting.translate node before = .ok (first, mid) ∧
        setting.translateAll nodes mid = .ok (others, after) ∧ operands = first ++ others := by
  rw [translateAll]
  constructor
  · intro done
    cases one : setting.translate node before with
    | error reason => rw [one] at done; cases done
    | ok pair =>
        rw [one] at done
        change (setting.translateAll nodes pair.2).map _ = _ at done
        cases rest : setting.translateAll nodes pair.2 with
        | error reason => rw [rest] at done; cases done
        | ok last =>
            rw [rest] at done
            cases done
            exact ⟨pair.1, pair.2, last.1, rfl, rest, rfl⟩
  · rintro ⟨first, mid, others, one, rest, rfl⟩
    rw [one]
    change (setting.translateAll nodes mid).map _ = _
    rw [rest]
    rfl

theorem exists_of_mem_translateAll {setting : Setting} {nodes : List Node} {operands : List Operand}
    {before after : Bindings}
    (done : setting.translateAll nodes before = .ok (operands, after))
    {operand : Operand} (among : operand ∈ operands) :
    ∃ node ∈ nodes, ∃ own before' after', setting.translate node before' = .ok (own, after') ∧
      operand ∈ own := by
  induction nodes generalizing operands before with
  | nil =>
      cases done
      cases among
  | cons node nodes ih =>
      obtain ⟨first, mid, others, one, rest, rfl⟩ := translateAll_cons_ok.1 done
      rcases List.mem_append.1 among with front | back
      · exact ⟨node, List.mem_cons_self .., first, before, mid, one, front⟩
      · obtain ⟨other, inside, found⟩ := ih rest back
        exact ⟨other, List.mem_cons_of_mem _ inside, found⟩

/-- A node is translated when its children are and their operands can be put together. -/
theorem translate_ok {setting : Setting} {node : Node} {operands : List Operand}
    {before after : Bindings} (single : node.rule ≠ .geometryCollection) :
    setting.translate node before = .ok (operands, after) ↔
      ∃ parts mid, setting.translateAll node.children before = .ok (parts, mid) ∧
        setting.assemble (setting.action false node) parts mid = .ok (operands, after) := by
  rw [setting.translate_eq before single]
  constructor
  · intro done
    cases inner : setting.translateAll node.children before with
    | error reason => rw [inner] at done; cases done
    | ok pair =>
        rw [inner] at done
        exact ⟨pair.1, pair.2, rfl, done⟩
  · rintro ⟨parts, mid, inner, done⟩
    rw [inner]
    exact done

/-- A value was bound, and its placeholder made an operand of. -/
theorem assemble_bind_ok {setting : Setting} {value : String} {wrap : Fragment → Operand}
    {parts operands : List Operand} {before after : Bindings}
    (done : setting.assemble (.bind value wrap) parts before = .ok (operands, after)) :
    ∃ placeholder, operands = [wrap placeholder] ∧
      before.bind setting.dialect.sigil setting.draws value = .ok (placeholder, after) := by
  simp only [assemble] at done
  cases bound : before.bind setting.dialect.sigil setting.draws value with
  | error reason => rw [bound] at done; cases done
  | ok pair =>
      rw [bound] at done
      cases done
      exact ⟨pair.1, rfl, rfl⟩

/-! ## The number of operands -/

theorem length_of_assemble {setting : Setting} {action : Action} {parts operands : List Operand}
    {before after : Bindings} {left : Nat} (fits : action.Fits parts.length left)
    (done : setting.assemble action parts before = .ok (operands, after)) :
    operands.length = left := by
  cases action with
  | keep =>
      cases done
      exact fits
  | push operand =>
      cases done
      exact fits.2.symm
  | bind value wrap =>
      obtain ⟨placeholder, rfl, _⟩ := assemble_bind_ok done
      exact fits.2.symm
  | combine count result =>
      cases done
      exact fits.2.symm
  | refuse reason => cases done

theorem length_of_translateAll {setting : Setting} {nodes : List Node} {operands : List Operand}
    {before after : Bindings}
    (each : ∀ node ∈ nodes, ∀ {operands : List Operand} {before after : Bindings},
      setting.translate node before = .ok (operands, after) →
        operands.length = node.operandCount)
    (done : setting.translateAll nodes before = .ok (operands, after)) :
    operands.length = (nodes.map Node.operandCount).sum := by
  induction nodes generalizing operands before with
  | nil =>
      cases done
      rfl
  | cons node nodes ih =>
      obtain ⟨first, mid, others, one, rest, rfl⟩ := translateAll_cons_ok.1 done
      have front := each node (List.mem_cons_self ..) one
      have back := ih (fun other among => each other (List.mem_cons_of_mem _ among)) rest
      rw [List.length_append, front, back, List.map_cons, List.sum_cons]

/-- A node leaves as many operands as its rule says. -/
theorem length_of_translate {setting : Setting} {node : Node} (formed : node.Formed)
    {operands : List Operand} {before after : Bindings}
    (done : setting.translate node before = .ok (operands, after)) :
    operands.length = node.operandCount := by
  induction formed using Node.Formed.induction generalizing operands before after with
  | step node formed ih =>
      by_cases collection : node.rule = .geometryCollection
      · rw [setting.translate_collection before collection,
          setting.action_collection collection] at done
        rw [Node.operandCount_of_rule (n := 1) (by rw [collection]; rfl)]
        exact length_of_assemble (geometry_fits _) done
      · obtain ⟨parts, mid, inner, put⟩ := (translate_ok collection).1 done
        have fits := setting.action_fits formed collection
        rw [Node.partCount, ← length_of_translateAll (fun child among => ih child among) inner]
          at fits
        exact length_of_assemble fits put

end Setting

/-! ## The walk -/

namespace Compilation

def bindings (state : Compilation) : Bindings :=
  ⟨state.params, state.drawn⟩

/-- The state with further operands on the stack, the last of them on top. -/
def extend (state : Compilation) (operands : List Operand) (bindings : Bindings) : Compilation :=
  { state with
    stack := operands.reverse ++ state.stack
    params := bindings.params
    drawn := bindings.drawn }

@[simp] theorem extend_bindings (state : Compilation) (operands : List Operand)
    (bindings : Bindings) : (state.extend operands bindings).bindings = bindings := rfl

@[simp] theorem extend_failure (state : Compilation) (operands : List Operand)
    (bindings : Bindings) : (state.extend operands bindings).failure = state.failure := rfl

@[simp] theorem extend_collectionDepth (state : Compilation) (operands : List Operand)
    (bindings : Bindings) :
    (state.extend operands bindings).collectionDepth = state.collectionDepth := rfl

theorem extend_extend (state : Compilation) (first second : List Operand) (mid last : Bindings) :
    (state.extend first mid).extend second last = state.extend (first ++ second) last := by
  simp [extend]

theorem extend_nil (state : Compilation) : state.extend [] state.bindings = state := rfl

/-- The state `after` is what the outcome of a translation says: the state `before` with further
operands, or one in which something went wrong. -/
def Follows (outcome : Except CompileError (List Operand × Bindings))
    (before after : Compilation) : Prop :=
  match outcome with
  | .ok (operands, bindings) => after = before.extend operands bindings
  | .error reason => after.failure = some reason

/-- The operands that were put on the stack last are taken off again, and nothing below them is
touched. -/
theorem splitTop_extend (state : Compilation) (parts : List Operand) (bindings : Bindings) :
    (state.extend parts bindings).splitTop parts.length
      = (parts, state.extend [] bindings) := by
  simp [splitTop, Stack.splitTop, extend]

theorem bind_ok {state : Compilation} {sigil : Char} {draws : Draws} {value : String}
    {placeholder : Fragment} {after : Bindings}
    (bound : state.bindings.bind sigil draws value = .ok (placeholder, after)) :
    state.bind sigil draws value = (placeholder, state.extend [] after) := by
  obtain ⟨name, drawn, found, rfl, rfl⟩ := Bindings.fresh_of_bind_ok bound
  have same : ParameterName.fresh state.isBound draws state.drawn = (some name, drawn) := found
  simp only [bind, same]
  rfl

theorem bind_error {state : Compilation} {sigil : Char} {draws : Draws} {value : String}
    {reason : CompileError} (running : state.failure = none)
    (unbound : state.bindings.bind sigil draws value = .error reason) :
    (state.bind sigil draws value).2.failure = some reason := by
  obtain ⟨drawn, missed, rfl⟩ := Bindings.fresh_of_bind_error unbound
  have same : ParameterName.fresh state.isBound draws state.drawn = (none, drawn) := missed
  simp only [bind, same, fail, running]
  rfl

end Compilation

namespace Setting

/-- An action on a stack that ends with the operands it takes does what putting them together
says. -/
theorem perform_follows (setting : Setting) {state : Compilation} {action : Action}
    {parts : List Operand} {bindings : Bindings} {left : Nat} (running : state.failure = none)
    (fits : action.Fits parts.length left) :
    Compilation.Follows (setting.assemble action parts bindings) state
      (setting.perform action (state.extend parts bindings)) := by
  cases action with
  | keep => rfl
  | push operand =>
      rw [List.length_eq_zero_iff.1 fits.1]
      rfl
  | bind value wrap =>
      rw [List.length_eq_zero_iff.1 fits.1]
      simp only [assemble, perform]
      cases bound : bindings.bind setting.dialect.sigil setting.draws value with
      | error reason =>
          rw [← state.extend_bindings [] bindings] at bound
          exact Compilation.bind_error running bound
      | ok pair =>
          rw [← state.extend_bindings [] bindings] at bound
          rw [Compilation.bind_ok bound]
          rfl
  | combine count result =>
      simp only [assemble, perform]
      rw [← fits.1, Compilation.splitTop_extend]
      rfl
  | refuse reason =>
      simp only [assemble, perform, Compilation.Follows, Compilation.fail,
        Compilation.extend_failure, running]
      rfl

/-! ### After something went wrong -/

theorem enter_failure (node : Node) (state : Compilation) :
    (enter node state).failure = state.failure := by
  unfold enter
  split <;> rfl

theorem leave_failure (setting : Setting) (node : Node) {state : Compilation}
    {reason : CompileError} (failed : state.failure = some reason) :
    (setting.leave node state).failure = some reason := by
  simp only [leave]
  split
  · simp only [Compilation.hasFailed, failed, Option.isSome_some, if_true]
  · simp only [Compilation.hasFailed, failed, Option.isSome_some, if_true]

mutual

/-- Once something went wrong, the walk goes on without changing what it was. -/
theorem walk_failure (setting : Setting) {reason : CompileError} :
    ∀ (node : Node) {state : Compilation}, state.failure = some reason →
      (setting.walk node state).failure = some reason
  | ⟨rule, offset, text, children⟩, state, failed => by
      rw [walk]
      exact setting.leave_failure _ (walkAll_failure setting children
        ((enter_failure _ state).trans failed))

theorem walkAll_failure (setting : Setting) {reason : CompileError} :
    ∀ (nodes : List Node) {state : Compilation}, state.failure = some reason →
      (setting.walkAll nodes state).failure = some reason
  | [], state, failed => by
      rw [walkAll]
      exact failed
  | node :: nodes, state, failed => by
      rw [walkAll]
      exact walkAll_failure setting nodes (walk_failure setting node failed)

end

/-! ### Inside a geometry collection -/

end Setting

def Rule.isGeometryPart : Rule → Bool
  | .geometryLiteral | .point | .linestring | .linestringDef | .polygon | .polygonDef
  | .multiPoint | .multiLinestring | .multiPolygon | .coordinate | .xCoord | .yCoord | .zCoord
  | .keyword _ => true
  | _ => false

def Grammar.Definition.isGeometry : Definition → Bool
  | .phrase body => body.mentions.all Rule.isGeometryPart
  | _ => true

theorem Grammar.isGeometry_definition (rule : Rule) :
    (!rule.isGeometryPart || (definition rule).isGeometry) = true := by
  cases rule <;> rfl

theorem Node.Formed.isGeometryPart_of_child {node child : Node} (formed : node.Formed)
    (part : node.rule.isGeometryPart = true) (among : child ∈ node.children) :
    child.rule.isGeometryPart = true := by
  cases formed with
  | token defined taken => cases among
  | @phrase rule body offset text children defined spelled inner =>
      have closed := Grammar.isGeometry_definition rule
      simp only [show rule.isGeometryPart = true from part, defined, Definition.isGeometry,
        Bool.not_true, Bool.false_or, List.all_eq_true] at closed
      exact closed _ (Phrase.mem_mentions_of_spells spelled (List.mem_map_of_mem among))

theorem Node.Formed.isGeometryPart_of_member {node child : Node} (formed : node.Formed)
    (collection : node.rule = .geometryCollection) (among : child ∈ node.children) :
    child.rule.isGeometryPart = true := by
  have defined : definition node.rule = .phrase
      (.kw .geometryCollection ++ .bracketed (.listed (.ref .geometryLiteral))) := by
    rw [collection]
    rfl
  have closed : ∀ rule ∈ (Phrase.kw .geometryCollection
      ++ .bracketed (.listed (.ref .geometryLiteral))).mentions,
      rule.isGeometryPart = true := by decide
  exact closed _ (formed.rule_of_child defined among)

namespace Setting

theorem action_geometryPart (setting : Setting) {node : Node}
    (part : node.rule.isGeometryPart = true) : setting.action true node = .keep := by
  obtain ⟨rule, offset, text, children⟩ := node
  cases rule <;> first | rfl | cases part

/-- The walk over several nodes that change nothing changes nothing. -/
theorem walkAll_eq_self {setting : Setting} {nodes : List Node} {state : Compilation}
    (each : ∀ node ∈ nodes, setting.walk node state = state) :
    setting.walkAll nodes state = state := by
  induction nodes with
  | nil => rw [walkAll]
  | cons node nodes ih =>
      rw [walkAll, each node (List.mem_cons_self ..)]
      exact ih fun other among => each other (List.mem_cons_of_mem _ among)

theorem walk_geometryPart {setting : Setting} {node : Node} (formed : node.Formed)
    (part : node.rule.isGeometryPart = true) {state : Compilation}
    (inside : state.collectionDepth ≠ 0) : setting.walk node state = state := by
  induction formed using Node.Formed.induction with
  | step node formed ih =>
      have single : node.rule ≠ .geometryCollection := by
        intro collection
        rw [collection] at part
        cases part
      have children : setting.walkAll node.children state = state :=
        walkAll_eq_self fun child among =>
          ih child among (formed.isGeometryPart_of_child part among)
      have deep : (state.collectionDepth != 0) = true := bne_iff_ne.2 inside
      rw [walk_eq, enter, if_neg single, children, leave, if_neg single]
      simp only [deep, setting.action_geometryPart part, perform, ite_self]

/-! ### Outside geometry collections -/

/-- The walk over several nodes follows their translation, when the walk over each of them does. -/
theorem walkAll_follows {setting : Setting} {nodes : List Node} (state : Compilation)
    (each : ∀ node ∈ nodes, ∀ state : Compilation, state.failure = none →
      state.collectionDepth = 0 →
        Compilation.Follows (setting.translate node state.bindings) state
          (setting.walk node state))
    (running : state.failure = none) (outside : state.collectionDepth = 0) :
    Compilation.Follows (setting.translateAll nodes state.bindings) state
      (setting.walkAll nodes state) := by
  induction nodes generalizing state with
  | nil =>
      rw [translateAll, walkAll]
      exact state.extend_nil.symm
  | cons node nodes ih =>
      rw [translateAll, walkAll]
      have front := each node (List.mem_cons_self ..) state running outside
      have others := fun other among => each other (List.mem_cons_of_mem node among)
      cases one : setting.translate node state.bindings with
      | error reason =>
          rw [one] at front
          exact walkAll_failure setting nodes front
      | ok pair =>
          obtain ⟨first, mid⟩ := pair
          rw [one] at front
          rw [show setting.walk node state = state.extend first mid from front]
          change Compilation.Follows ((setting.translateAll nodes mid).map _) _ _
          have back : Compilation.Follows (setting.translateAll nodes mid) (state.extend first mid)
            (setting.walkAll nodes (state.extend first mid))  :=
            ih (state.extend first mid) others running outside
          cases rest : setting.translateAll nodes mid with
          | error reason =>
              rw [rest] at back
              exact back
          | ok last =>
              rw [rest] at back
              exact Eq.trans back (state.extend_extend first last.1 mid last.2)

theorem leave_follows {setting : Setting} {node : Node} {state : Compilation}
    {parts : List Operand} {bindings : Bindings} {left : Nat} (running : state.failure = none)
    (outside : state.collectionDepth = 0) (single : node.rule ≠ .geometryCollection)
    (fits : (setting.action false node).Fits parts.length left) :
    Compilation.Follows (setting.assemble (setting.action false node) parts bindings) state
      (setting.leave node (state.extend parts bindings)) := by
  have shallow : (state.collectionDepth != 0) = false := by rw [outside]; rfl
  simp only [leave, if_neg single, Compilation.hasFailed, Compilation.extend_failure, running,
    Option.isSome_none, Bool.false_eq_true, if_false, Compilation.extend_collectionDepth, shallow]
  exact setting.perform_follows running fits

theorem collection_follows (setting : Setting) {node : Node} (formed : node.Formed)
    (collection : node.rule = .geometryCollection) {state : Compilation}
    (running : state.failure = none) (outside : state.collectionDepth = 0) :
    Compilation.Follows (setting.assemble (geometry node) [] state.bindings) state
      (setting.leave node (setting.walkAll node.children (enter node state))) := by
  have members : setting.walkAll node.children { state with collectionDepth := 1 }
      = { state with collectionDepth := 1 } :=
    walkAll_eq_self fun child among => walk_geometryPart (formed.children child among)
      (formed.isGeometryPart_of_member collection among) Nat.one_ne_zero
  have entered : enter node state = { state with collectionDepth := 1 } := by
    rw [enter, if_pos collection, outside]
  have left : setting.leave node { state with collectionDepth := 1 }
      = setting.perform (geometry node) state := by
    have restored : { state with collectionDepth := 1 - 1 } = state :=
      congrArg (fun depth => { state with collectionDepth := depth }) outside.symm
    simp only [leave, if_pos collection]
    rw [restored, Compilation.hasFailed, running]
    exact congrArg (setting.perform · state) (setting.action_collection collection)
  rw [entered, members, left]
  exact setting.perform_follows running (geometry_fits node)

/-- The walk over a node follows its translation. -/
theorem walk_follows {setting : Setting} {node : Node} (formed : node.Formed)
    (state : Compilation) (running : state.failure = none) (outside : state.collectionDepth = 0) :
    Compilation.Follows (setting.translate node state.bindings) state
      (setting.walk node state) := by
  induction formed using Node.Formed.induction generalizing state with
  | step node formed ih =>
      rw [walk_eq]
      by_cases collection : node.rule = .geometryCollection
      · rw [setting.translate_collection _ collection, setting.action_collection collection]
        exact setting.collection_follows formed collection running outside
      · rw [enter, if_neg collection, setting.translate_eq _ collection]
        have inner := walkAll_follows state ih running outside
        cases walked : setting.translateAll node.children state.bindings with
        | error reason =>
            rw [walked] at inner
            exact setting.leave_failure node inner
        | ok pair =>
            obtain ⟨parts, mid⟩ := pair
            rw [walked] at inner
            rw [show setting.walkAll node.children state = state.extend parts mid from inner]
            have fits := setting.action_fits formed collection
            rw [Node.partCount, ← length_of_translateAll
              (fun child among => length_of_translate (formed.children child among)) walked]
              at fits
            exact leave_follows running outside collection fits

/-! ## Compiling -/

/-- Whatever the stack holds, the walk over a node that leaves an operand either goes wrong as its
translation does, or leaves the stack alone and puts on top the one operand of the translation. The
translation knows nothing of the stack. -/
theorem walk_eq_translate (setting : Setting) {filter : String} {tree node : Node}
    (accepted : Filter.parse filter = .ok tree) (inside : node ∈ tree.preorder)
    (leaves : node.rule.isOperand = true) {state : Compilation} (running : state.failure = none)
    (outside : state.collectionDepth = 0) :
    (∃ reason, setting.translate node state.bindings = .error reason ∧
      ∀ stack : Stack,
        (setting.walk node { state with stack := stack }).failure = some reason) ∨
    ∃ operand bindings, setting.translate node state.bindings = .ok ([operand], bindings) ∧
      ∀ stack : Stack, setting.walk node { state with stack := stack } =
        { state with
          stack := operand :: stack
          params := bindings.params
          drawn := bindings.drawn } := by
  have formed := (Filter.formed_of_parse accepted).of_mem_preorder inside
  have follows (stack : Stack) :
      Compilation.Follows (setting.translate node state.bindings) { state with stack := stack }
        (setting.walk node { state with stack := stack }) :=
    walk_follows formed { state with stack := stack } running outside
  cases done : setting.translate node state.bindings with
  | error reason =>
      refine .inl ⟨reason, rfl, fun stack => ?_⟩
      have after := follows stack
      rw [done] at after
      exact after
  | ok pair =>
      obtain ⟨operands, bindings⟩ := pair
      have one : operands.length = 1 := by
        rw [length_of_translate formed done, Node.operandCount_of_rule (beq_iff_eq.1 leaves)]
      obtain ⟨operand, rfl⟩ := List.length_eq_one_iff.1 one
      refine .inr ⟨operand, bindings, rfl, fun stack => ?_⟩
      have after := follows stack
      rw [done] at after
      exact after

/-- The operands of a negated comparison with a range, above whatever is on the stack. -/
theorem walk_eq_translate_range :
    ∃ tree operand bindings,
      Filter.parse "NOT a BETWEEN 1 AND b" = .ok tree ∧
      translate { dialect := .geoPackage } tree {} = .ok ([operand], bindings) ∧
      ∀ stack : Stack, walk { dialect := .geoPackage } tree { stack := stack } =
        { stack := operand :: stack, params := bindings.params, drawn := bindings.drawn } := by
  have evaluated : ((Filter.parse "NOT a BETWEEN 1 AND b").toOption.any fun tree =>
      (translate { dialect := .geoPackage } tree {}).isOk) = true := by
    decide +kernel
  cases accepted : Filter.parse "NOT a BETWEEN 1 AND b" with
  | error errors => rw [accepted] at evaluated; cases evaluated
  | ok tree =>
      rw [accepted] at evaluated
      have leaves : tree.rule.isOperand = true := by
        rw [Filter.rule_of_parse accepted]
        rfl
      rcases walk_eq_translate { dialect := .geoPackage } accepted tree.self_mem_preorder leaves
        (show ({} : Compilation).failure = none from rfl) rfl with
        ⟨reason, wrong, _⟩ | ⟨operand, bindings, done, walked⟩
      · change (translate { dialect := .geoPackage } tree {}).isOk = true at evaluated
        rw [show translate { dialect := .geoPackage } tree {} = .error reason from wrong]
          at evaluated
        cases evaluated
      · exact ⟨tree, operand, bindings, rfl, done, walked⟩

theorem translate_filter {setting : Setting} {tree : Node} (formed : tree.Formed)
    (whole : tree.rule = .cqlFilter) {operands : List Operand} {before after : Bindings}
    (done : setting.translate tree before = .ok (operands, after)) :
    ∃ operand, operands = [.closed (setting.dialect.closedValue operand)] := by
  have single : tree.rule ≠ .geometryCollection := by
    rw [whole]
    exact Rule.noConfusion
  have acts : setting.action false tree
      = .combine1 fun operand => .closed (setting.dialect.closedValue operand) := by
    simp only [action, whole]
  obtain ⟨parts, mid, inner, put⟩ := (translate_ok single).1 done
  have fits := setting.action_fits formed single
  have count := length_of_translateAll
    (fun child among => length_of_translate (formed.children child among)) inner
  rw [acts] at fits put
  obtain ⟨operand, rfl⟩ := List.length_eq_one_iff.1 (count.trans fits.1)
  cases put
  exact ⟨operand, rfl⟩

/-- A filter whose translation goes wrong does not compile, for the same reason. -/
theorem compile_error {setting : Setting} {filter : String} {tree : Node}
    (accepted : Filter.parse filter = .ok tree) {reason : CompileError}
    (wrong : setting.translate tree {} = .error reason) :
    setting.compile filter = .error reason := by
  have follows : Compilation.Follows (setting.translate tree {}) {} (setting.walk tree {}) :=
    walk_follows (Filter.formed_of_parse accepted) {} rfl rfl
  rw [wrong] at follows
  simp only [compile, Filter.isBlank_of_parse accepted, accepted, compileTree, Bool.false_eq_true,
    if_false, Compilation.result, show (setting.walk tree {}).failure = some reason from follows]

/-- A filter that can be translated compiles to the SQL of its operand. -/
theorem compile_ok {setting : Setting} {filter : String} {tree : Node}
    (accepted : Filter.parse filter = .ok tree) {operands : List Operand} {bindings : Bindings}
    (done : setting.translate tree {} = .ok (operands, bindings)) :
    ∃ sql, operands = [.closed sql] ∧ setting.compile filter = .ok
      { sql := sql.render
        params := Compilation.usedParams setting.dialect.sigil sql.render bindings.params } := by
  have formed := Filter.formed_of_parse accepted
  have follows : Compilation.Follows (setting.translate tree {}) {} (setting.walk tree {}) :=
    walk_follows formed {} rfl rfl
  obtain ⟨operand, rfl⟩ := translate_filter formed (Filter.rule_of_parse accepted) done
  refine ⟨_, rfl, ?_⟩
  rw [done] at follows
  simp only [compile, Filter.isBlank_of_parse accepted, accepted, compileTree, Bool.false_eq_true,
    if_false]
  rw [show setting.walk tree {} = _ from follows]
  rfl

/-- The SQL of a filter that compiles is that of its translation. -/
theorem translate_of_compile {setting : Setting} {filter : String} {tree : Node}
    {result : SqlFilter} (accepted : Filter.parse filter = .ok tree)
    (compiled : setting.compile filter = .ok result) :
    ∃ sql bindings, setting.translate tree {} = .ok ([.closed sql], bindings) ∧ result =
      { sql := sql.render
        params := Compilation.usedParams setting.dialect.sigil sql.render bindings.params } := by
  cases done : setting.translate tree {} with
  | error reason =>
      rw [compile_error accepted done] at compiled
      cases compiled
  | ok pair =>
      obtain ⟨sql, shape, same⟩ := compile_ok accepted done
      rw [same] at compiled
      cases compiled
      exact ⟨sql, pair.2, by rw [← shape], rfl⟩

end Setting

end Cql
