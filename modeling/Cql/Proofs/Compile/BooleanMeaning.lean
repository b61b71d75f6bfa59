import Cql.Proofs.Compile.SqlSafety
import Cql.Proofs.Grammar.Placement
import Cql.Proofs.Sql.TruthValue

/-!
# Boolean meaning

A filter joins its conditions by `OR`, `AND` and `NOT`, and so does its SQL, where brackets are
written only around what is not closed already. This module gives both of them a truth value in
three-valued logic, under any assignment of truth values to the conditions, and shows that the two
agree. The invariant is that the SQL of every part of a filter is a clause, which can stand in any
place without brackets around it.
-/

namespace Cql

open Cql.Sql Cql.Grammar

namespace Rule

def isCondition : Rule → Bool
  | .predicate | .booleanLiteral | .function => true
  | _ => false

/-- Whether a node of the rule has a truth value. The words between conditions have none. -/
def hasTruth (rule : Rule) : Bool :=
  rule.isBoolean || rule.isCondition

end Rule

namespace Node

mutual

/-- The conditions that the node joins, from left to right: predicates, truth values and calls of
functions. -/
def conditions : Node → List Node
  | ⟨rule, offset, text, children⟩ =>
      if rule.isBoolean then conditionsAll children
      else if rule.isCondition then [⟨rule, offset, text, children⟩]
      else []

def conditionsAll : List Node → List Node
  | [] => []
  | node :: nodes => conditions node ++ conditionsAll nodes

end

mutual

/-- The truth value of a node. An expression is the disjunction of its terms, a term the conjunction
of its factors, and a factor is its primary or, after `NOT`, the negation of it. -/
def truth (assigned : Node → Truth) : Node → Truth
  | ⟨rule, offset, text, children⟩ =>
      match rule with
      | .booleanExpression => .any (truths assigned children)
      | .booleanTerm => .all (truths assigned children)
      | .booleanFactor =>
          if includes ⟨rule, offset, text, children⟩ (.keyword .not) then
            (Truth.only (truths assigned children)).not
          else .only (truths assigned children)
      | .cqlFilter | .booleanPrimary => .only (truths assigned children)
      | _ => assigned ⟨rule, offset, text, children⟩

def truths (assigned : Node → Truth) : List Node → List Truth
  | [] => []
  | node :: nodes =>
      if node.rule.hasTruth then truth assigned node :: truths assigned nodes
      else truths assigned nodes

end

theorem conditions_of_boolean {node : Node} (joins : node.rule.isBoolean = true) :
    node.conditions = conditionsAll node.children := by
  cases node
  exact if_pos joins

theorem conditions_of_condition {node : Node} (condition : node.rule.isCondition = true) :
    node.conditions = [node] := by
  obtain ⟨rule, offset, text, children⟩ := node
  cases rule <;> first | rfl | cases condition

theorem truth_of_condition {node : Node} (condition : node.rule.isCondition = true)
    (assigned : Node → Truth) : node.truth assigned = assigned node := by
  obtain ⟨rule, offset, text, children⟩ := node
  cases rule <;> first | rfl | cases condition

theorem conditionsAll_eq (nodes : List Node) : conditionsAll nodes = nodes.flatMap conditions := by
  induction nodes with
  | nil => rfl
  | cons node nodes ih => rw [conditionsAll, ih, List.flatMap_cons]

@[simp] theorem conditionsAll_singleton (node : Node) : conditionsAll [node] = node.conditions := by
  rw [conditionsAll_eq, List.flatMap_singleton]

theorem conditionsAll_append (nodes others : List Node) :
    conditionsAll (nodes ++ others) = conditionsAll nodes ++ conditionsAll others := by
  rw [conditionsAll_eq, conditionsAll_eq, conditionsAll_eq, List.flatMap_append]

theorem truths_singleton {node : Node} (valued : node.rule.hasTruth = true)
    (assigned : Node → Truth) : truths assigned [node] = [node.truth assigned] := by
  rw [truths, if_pos valued, truths]

theorem truths_append (assigned : Node → Truth) (nodes others : List Node) :
    truths assigned (nodes ++ others) = truths assigned nodes ++ truths assigned others := by
  induction nodes with
  | nil => rfl
  | cons node nodes ih =>
      rw [List.cons_append, truths, truths, ih]
      split
      · rw [List.cons_append]
      · rfl

end Node

/-! ## Chains in SQL -/

namespace Sql

theorem Fragment.render_joined_cons (separator : String) (first : Fragment)
    (others : List Fragment) :
    (Fragment.joined separator (first :: others)).render
      = first.render ++ String.join (others.map fun sql => separator ++ sql.render) := by
  induction others generalizing first with
  | nil => simp [Fragment.joined]
  | cons next others ih =>
      rw [Fragment.joined, List.intercalate_cons_cons, ← Fragment.joined, Fragment.render_append,
        Fragment.render_append, ih next]
      simp [Piece.render, String.append_assoc]

namespace Token.Clause

theorem renderAll_follow (token : Token) (clauses : List Clause) :
    renderAll (follow token clauses)
      = String.join (clauses.map fun clause => token.render ++ renderAll clause.tokens) := by
  induction clauses with
  | nil => rfl
  | cons clause clauses ih =>
      rw [follow, List.flatMap_cons, ← follow, renderAll_append, ih]
      simp

theorem leaves_follow (connective : Connective) (clauses : List Clause) :
    leaves (follow connective.token clauses)
      = clauses.flatMap fun clause => leaves clause.tokens := by
  induction clauses with
  | nil => rfl
  | cons clause clauses ih =>
      rw [follow, List.flatMap_cons, ← follow, leaves_append, ih, List.flatMap_cons, leaves,
        List.filterMap_cons_none connective.leaf?_token]
      rfl

end Token.Clause

end Sql

namespace Setting

open Token

/-! ## What the operands of nodes mean -/

def Writes (setting : Setting) (clauses : List Clause) (operands : List Operand) : Prop :=
  (clauses.map fun clause => renderAll clause.tokens)
    = operands.map fun operand => (setting.dialect.value operand).render

/-- The operands of the nodes are the texts of clauses that have the truth values of the nodes. The
leaves of the clauses are the conditions of the nodes, each with the SQL that it has on its own. -/
inductive Means (setting : Setting) (nodes : List Node) (operands : List Operand)
    (before after : Bindings) : Prop where
  | intro (clauses : List Clause) (parts : List Operand)
      (written : setting.Writes clauses operands)
      (valued : ∀ assigned,
        (clauses.map fun clause => clause.truth assigned) = Node.truths assigned nodes)
      (emitted : setting.translateAll (Node.conditionsAll nodes) before = .ok (parts, after))
      (leaves : (clauses.flatMap fun clause => leaves clause.tokens)
        = (Node.conditionsAll nodes).zip (parts.map setting.dialect.value))
      (paired : parts.length = (Node.conditionsAll nodes).length)

variable {setting : Setting}

theorem translateAll_append {nodes others : List Node} {first second : List Operand}
    {before mid after : Bindings} (one : setting.translateAll nodes before = .ok (first, mid))
    (two : setting.translateAll others mid = .ok (second, after)) :
    setting.translateAll (nodes ++ others) before = .ok (first ++ second, after) := by
  induction nodes generalizing first before with
  | nil =>
      cases one
      exact two
  | cons node nodes ih =>
      obtain ⟨front, next, rest, done, inner, rfl⟩ := translateAll_cons_ok.1 one
      exact translateAll_cons_ok.2 ⟨front, next, rest ++ second, done, ih inner, by simp⟩

namespace Means

theorem nil (bindings : Bindings) : setting.Means [] [] bindings bindings :=
  .intro [] [] rfl (fun _ => rfl) rfl rfl rfl

theorem append {nodes others : List Node} {first second : List Operand}
    {before mid after : Bindings} (one : setting.Means nodes first before mid)
    (two : setting.Means others second mid after) :
    setting.Means (nodes ++ others) (first ++ second) before after := by
  obtain ⟨clauses, parts, written, valued, emitted, leaves, paired⟩ := one
  obtain ⟨clauses', parts', written', valued', emitted', leaves', paired'⟩ := two
  refine .intro (clauses ++ clauses') (parts ++ parts') ?_ (fun assigned => ?_) ?_ ?_ ?_
  · rw [Writes, List.map_append, List.map_append, written, written']
  · rw [List.map_append, Node.truths_append, valued, valued']
  · rw [Node.conditionsAll_append]
    exact translateAll_append emitted emitted'
  · rw [List.flatMap_append, Node.conditionsAll_append, List.map_append, leaves, leaves',
      List.zip_append (by rw [List.length_map, paired])]
  · rw [List.length_append, Node.conditionsAll_append, List.length_append, paired, paired']

theorem leaf {node : Node} (condition : node.rule.isCondition = true) {operand : Operand}
    (unit : Lexeme.IsUnit (setting.dialect.value operand).render) {before after : Bindings}
    (done : setting.translate node before = .ok ([operand], after)) :
    setting.Means [node] [operand] before after := by
  have valued : node.rule.hasTruth = true := Bool.or_eq_true_iff.2 (.inr condition)
  have alone : setting.translateAll [node] before = .ok ([operand], after) :=
    translateAll_cons_ok.2 ⟨[operand], after, [], done, rfl, rfl⟩
  refine .intro [.leaf node (setting.dialect.value operand) unit] [operand] ?_
    (fun assigned => ?_) ?_ ?_ ?_
  · simp [Writes, Clause.leaf, Token.render]
  · rw [Node.truths_singleton valued, Node.truth_of_condition condition]
    rfl
  · rw [Node.conditionsAll_singleton, Node.conditions_of_condition condition]
    exact alone
  · rw [Node.conditionsAll_singleton, Node.conditions_of_condition condition]
    rfl
  · rw [Node.conditionsAll_singleton, Node.conditions_of_condition condition]
    rfl

/-- A word between conditions is nothing. -/
theorem word {node : Node} (joins : node.rule.isBoolean = false)
    (condition : node.rule.isCondition = false) (bindings : Bindings) :
    setting.Means [node] [] bindings bindings := by
  have silent : Node.conditionsAll [node] = [] := by
    obtain ⟨rule, offset, text, children⟩ := node
    rw [Node.conditionsAll_singleton, Node.conditions, if_neg (Bool.eq_false_iff.1 joins),
      if_neg (Bool.eq_false_iff.1 condition)]
  refine .intro [] [] rfl (fun assigned => ?_) ?_ ?_ ?_
  · rw [Node.truths, Rule.hasTruth, joins, condition]
    rfl
  · rw [silent]
    rfl
  · rw [silent]
    rfl
  · rw [silent]
    rfl

/-- A node that joins conditions means what the clauses of its parts mean together. -/
theorem join {node : Node} (joins : node.rule.isBoolean = true) {parts : List Operand}
    {before after : Bindings} {operand : Operand}
    (inner : setting.Means node.children parts before after)
    (together : ∀ clauses, setting.Writes clauses parts → ∃ whole : Clause,
      setting.Writes [whole] [operand] ∧
      Token.leaves whole.tokens = (clauses.flatMap fun clause => Token.leaves clause.tokens) ∧
      ∀ assigned,
        (clauses.map fun clause => clause.truth assigned) = Node.truths assigned node.children →
          whole.truth assigned = node.truth assigned) :
    setting.Means [node] [operand] before after := by
  obtain ⟨clauses, emittedParts, written, valued, emitted, leaves, paired⟩ := inner
  obtain ⟨whole, text, same, value⟩ := together clauses written
  have below : Node.conditionsAll [node] = Node.conditionsAll node.children := by
    rw [Node.conditionsAll_singleton, Node.conditions_of_boolean joins]
  refine .intro [whole] emittedParts text (fun assigned => ?_) ?_ ?_ ?_
  · rw [Node.truths_singleton (Bool.or_eq_true_iff.2 (.inl joins)), List.map_singleton,
      value assigned (valued assigned)]
  · rw [below]
    exact emitted
  · rw [List.flatMap_singleton, same, leaves, below]
  · rw [below]
    exact paired

end Means

/-! ## Putting clauses together -/

/-- The clause of the only part. -/
theorem Writes.only {clauses : List Clause} {part : Operand}
    (written : setting.Writes clauses [part]) : ∃ clause, clauses = [clause] ∧
      renderAll clause.tokens = (setting.dialect.value part).render := by
  obtain ⟨clause, rfl, text⟩ := List.map_eq_singleton_iff.1 written
  exact ⟨clause, rfl, text⟩

theorem exists_enclosed {clause : Clause} {part : Operand}
    (text : renderAll clause.tokens = (setting.dialect.value part).render) :
    ∃ whole : Clause, renderAll whole.tokens = (setting.dialect.closedValue part).render ∧
      leaves whole.tokens = leaves clause.tokens ∧ whole.truth = clause.truth := by
  rw [Dialect.closedValue]
  split
  · exact ⟨clause, text, rfl, rfl⟩
  · refine ⟨clause.group, ?_, ?_, rfl⟩
    · simp [Clause.group, Token.render, text, Fragment.bracketed, Piece.render]
    · exact leaves_grouped clause.tokens

theorem render_chain {token : Token} {first : Clause} {others : List Clause} {parts : List Operand}
    (written : setting.Writes (first :: others) parts) :
    renderAll (.opening :: (first.tokens ++ Clause.follow token others) ++ [.closing])
      = (Fragment.bracketed (Fragment.joined token.render
          (parts.map setting.dialect.value))).render := by
  cases parts with
  | nil => cases written
  | cons part parts =>
      obtain ⟨front, rest⟩ := List.cons.inj written
      have tail : (others.map fun clause => token.render ++ renderAll clause.tokens)
          = (parts.map setting.dialect.value).map fun sql => token.render ++ sql.render := by
        have mapped := congrArg (List.map (token.render ++ ·)) rest
        simpa [Function.comp_def] using mapped
      rw [List.map_cons, Fragment.bracketed, Fragment.render_append, Fragment.render_append,
        Fragment.render_joined_cons, ← tail,
        ← show renderAll first.tokens = (setting.dialect.value part).render from front]
      simp [Clause.renderAll_follow, Token.render, Piece.render, String.append_assoc]

end Setting

/-! ## Nodes that join conditions -/

def Rule.isWord : Rule → Bool
  | .keyword _ | .endOfInput => true
  | _ => false

/-- Whether a phrase describes conditions and words between them. -/
def Grammar.Definition.joins : Definition → Bool
  | .phrase body => body.mentions.all fun rule => rule.hasTruth || rule.isWord
  | _ => false

theorem Grammar.joins_definition (rule : Rule) :
    (!rule.isBoolean || (definition rule).joins) = true := by
  cases rule <;> rfl

theorem Node.Formed.rule_of_part {node child : Node} (formed : node.Formed)
    (joins : node.rule.isBoolean = true) (among : child ∈ node.children) :
    child.rule.hasTruth = true ∨ child.rule.isWord = true := by
  have known := Grammar.joins_definition node.rule
  simp only [joins, Bool.not_true, Bool.false_or] at known
  cases defined : definition node.rule with
  | token pattern => rw [defined] at known; cases known
  | fragment body => rw [defined] at known; cases known
  | phrase body =>
      rw [defined] at known
      exact Bool.or_eq_true_iff.1
        (List.all_eq_true.1 known _ (formed.rule_of_child defined among))

namespace Setting

open Token

variable {setting : Setting}

/-- A word between conditions leaves no operand and binds nothing. -/
theorem translate_word {node : Node} (formed : node.Formed) (word : node.rule.isWord = true)
    (bindings : Bindings) : setting.translate node bindings = .ok ([], bindings) := by
  obtain ⟨rule, offset, text, children⟩ := node
  have acts : setting.action false ⟨rule, offset, text, children⟩ = .keep := by
    cases rule <;> first | rfl | cases word
  have token : ∃ pattern, definition rule = .token pattern := by
    cases rule <;> first | exact ⟨_, rfl⟩ | cases word
  have single : rule ≠ .geometryCollection := by
    rintro rfl
    cases word
  obtain ⟨pattern, defined⟩ := token
  rw [setting.translate_eq bindings single, acts, formed.children_of_token defined]
  rfl

/-- A node that joins conditions and keeps the operand of its only part, or puts brackets around
it. -/
theorem means_of_only {node : Node} (joins : node.rule.isBoolean = true) {part operand : Operand}
    {before after : Bindings} (inner : setting.Means node.children [part] before after)
    (valued : ∀ assigned, node.truth assigned = .only (Node.truths assigned node.children))
    (kept : setting.dialect.value operand = setting.dialect.value part ∨
      setting.dialect.value operand = setting.dialect.closedValue part) :
    setting.Means [node] [operand] before after := by
  refine inner.join joins fun clauses written => ?_
  obtain ⟨clause, rfl, text⟩ := written.only
  obtain ⟨whole, enclosed, same, value⟩ := exists_enclosed text
  rcases kept with plain | closed
  · refine ⟨clause, ?_, by simp, fun assigned below => ?_⟩
    · simpa [Writes, plain] using text
    · rw [valued, ← below]
      rfl
  · refine ⟨whole, ?_, by simpa using same, fun assigned below => ?_⟩
    · simpa [Writes, closed] using enclosed
    · rw [valued, ← below, value]
      rfl

theorem means_of_negated {node : Node} (joins : node.rule.isBoolean = true) {part : Operand}
    {before after : Bindings} (inner : setting.Means node.children [part] before after)
    (valued : ∀ assigned,
      node.truth assigned = (Truth.only (Node.truths assigned node.children)).not) :
    setting.Means [node] [.loose ("NOT " ++ setting.dialect.closedValue part)] before after := by
  refine inner.join joins fun clauses written => ?_
  obtain ⟨clause, rfl, text⟩ := written.only
  obtain ⟨whole, enclosed, same, value⟩ := exists_enclosed text
  refine ⟨whole.negate, ?_, ?_, fun assigned below => ?_⟩
  · simp [Writes, Clause.negate, Token.render, enclosed, Operand.loose, Dialect.value, Piece.render]
  · simpa [Clause.negate] using same
  · rw [valued, ← below]
    exact congrArg (fun truth => (truth assigned).not) value

theorem means_of_chain {node : Node} (joins : node.rule.isBoolean = true)
    {parts operands : List Operand} {before mid after : Bindings}
    (inner : setting.Means node.children parts before mid) (positive : 0 < parts.length)
    (connective : Connective)
    (valued : ∀ assigned,
      node.truth assigned = connective.combine (Node.truths assigned node.children))
    (done : setting.assemble (setting.chain parts.length connective.token.render) parts mid
      = .ok (operands, after)) :
    setting.Means [node] operands before after := by
  rw [chain] at done
  split at done
  · next few =>
      cases done
      obtain ⟨part, rfl⟩ :=
        List.length_eq_one_iff.1 (Nat.le_antisymm (Nat.le_of_lt_succ few) positive)
      refine inner.join joins fun clauses written => ?_
      obtain ⟨clause, rfl, text⟩ := written.only
      refine ⟨clause, written, by simp, fun assigned below => ?_⟩
      rw [valued, ← below]
      exact (connective.combine_singleton _).symm
  · cases done
    refine inner.join joins fun clauses written => ?_
    cases clauses with
    | nil =>
        rw [List.map_eq_nil_iff.1 written.symm] at positive
        cases positive
    | cons first others =>
        refine ⟨.chain connective first others, ?_, ?_, fun assigned below => ?_⟩
        · exact congrArg (fun sql => [sql]) (render_chain written)
        · exact (leaves_grouped _).trans (by
            rw [leaves_append, Clause.leaves_follow, List.flatMap_cons])
        · rw [valued, ← below]
          rfl

theorem means_of_translateAll {nodes : List Node} {operands : List Operand}
    {before after : Bindings}
    (each : ∀ node ∈ nodes, ∀ {operands : List Operand} {before after : Bindings},
      setting.translate node before = .ok (operands, after) →
        setting.Means [node] operands before after)
    (done : setting.translateAll nodes before = .ok (operands, after)) :
    setting.Means nodes operands before after := by
  induction nodes generalizing operands before with
  | nil =>
      cases done
      exact .nil _
  | cons node nodes ih =>
      obtain ⟨first, mid, others, one, rest, rfl⟩ := translateAll_cons_ok.1 done
      exact (each node (List.mem_cons_self ..) one).append
        (ih (fun other among => each other (List.mem_cons_of_mem _ among)) rest)

/-- A node that joins conditions means what its SQL says, when its parts do. -/
theorem means_of_boolean {node : Node} (formed : node.Formed) (joins : node.rule.isBoolean = true)
    {parts operands : List Operand} {before mid after : Bindings}
    (count : parts.length = node.partCount)
    (inner : setting.Means node.children parts before mid)
    (put : setting.assemble (setting.action false node) parts mid = .ok (operands, after)) :
    setting.Means [node] operands before after := by
  obtain ⟨rule, offset, text, children⟩ := node
  cases rule with
  | cqlFilter =>
      obtain ⟨part, rfl⟩ := List.length_eq_one_iff.1 (count.trans (formed.partCount_eq rfl rfl))
      cases put
      exact means_of_only joins inner (fun _ => rfl) (.inr rfl)
  | booleanPrimary =>
      obtain ⟨part, rfl⟩ := List.length_eq_one_iff.1 (count.trans (formed.partCount_eq rfl rfl))
      simp only [action] at put
      split at put
      · cases put
        refine means_of_only joins inner (fun _ => rfl) ?_
        by_cases closed : part.isClosed = true
        · exact .inl (congrArg setting.dialect.value (if_pos closed))
        · exact .inr (congrArg setting.dialect.value (if_neg closed))
      · cases put
        exact means_of_only joins inner (fun _ => rfl) (.inl rfl)
  | booleanFactor =>
      obtain ⟨part, rfl⟩ := List.length_eq_one_iff.1 (count.trans (formed.partCount_eq rfl rfl))
      simp only [action] at put
      split at put
      · next negated =>
          cases put
          exact means_of_negated joins inner fun _ => if_pos negated
      · next plain =>
          cases put
          exact means_of_only joins inner (fun _ => if_neg plain) (.inl rfl)
  | booleanTerm =>
      have members : Node.partCount _ = Node.count _ .booleanFactor :=
        formed.partCount_of_members rfl rfl (by decide)
      have positive := formed.count_pos_of_chain rfl
      simp only [action] at put
      rw [← members, ← count] at positive put
      exact means_of_chain joins inner positive .and (fun _ => rfl) put
  | booleanExpression =>
      have members : Node.partCount _ = Node.count _ .booleanTerm :=
        formed.partCount_of_members rfl rfl (by decide)
      have positive := formed.count_pos_of_chain rfl
      simp only [action] at put
      rw [← members, ← count] at positive put
      exact means_of_chain joins inner positive .or (fun _ => rfl) put
  | _ => cases joins

theorem means_of_translate {node : Node} (formed : node.Formed)
    (kind : node.rule.hasTruth = true ∨ node.rule.isWord = true) {operands : List Operand}
    {before after : Bindings} (done : setting.translate node before = .ok (operands, after)) :
    setting.Means [node] operands before after := by
  induction formed using Node.Formed.induction generalizing operands before after with
  | step node formed ih =>
      rcases kind with valued | word
      · rcases Bool.or_eq_true_iff.1 valued with joins | condition
        · have single : node.rule ≠ .geometryCollection := by
            intro collection
            rw [collection] at joins
            cases joins
          obtain ⟨parts, mid, inner, put⟩ := (translate_ok single).1 done
          have count := length_of_translateAll
            (fun child among => length_of_translate (formed.children child among)) inner
          exact means_of_boolean formed joins count
            (means_of_translateAll
              (fun child among => ih child among (formed.rule_of_part joins among)) inner) put
        · have one : operands.length = 1 := by
            rw [length_of_translate formed done]
            refine Node.operandCount_of_rule ?_
            revert condition
            cases node.rule <;> first | exact fun _ => rfl | exact nofun
          obtain ⟨operand, rfl⟩ := List.length_eq_one_iff.1 one
          have plain : node.rule.isBoolean = false := by
            revert condition
            cases node.rule <;> intro condition <;> first | rfl | cases condition
          have undivided : ∀ part ∈ [operand], part.Undivided fun _ => True :=
            translate_undivided formed plain (fun _ _ _ _ => trivial) done
          have value := setting.dialect.value_undivided (List.forall_mem_singleton.1 undivided)
          exact .leaf condition value.isUnit done
      · rw [translate_word formed word] at done
        cases done
        have neither : node.rule.isBoolean = false ∧ node.rule.isCondition = false := by
          revert word
          cases node.rule <;> first | exact fun _ => ⟨rfl, rfl⟩ | exact nofun
        exact .word neither.1 neither.2 before

end Setting

/-! ## Conditions in the filter -/

namespace Node

theorem Placed.conditions_row {node : Node} (placed : node.Placed) :
    Row node.offset node.text.toList node.conditions := by
  induction placed with
  | @intro node derived row inner ih =>
      obtain ⟨rule, offset, text, children⟩ := node
      rw [conditions]
      split
      · rw [conditionsAll_eq]
        exact row.flatMap ih
      · split
        · exact Row.singleton _
        · exact .nil _ _

theorem Placed.of_mem_conditions {node condition : Node} (placed : node.Placed)
    (member : condition ∈ node.conditions) :
    condition.Placed ∧ condition.rule.isCondition = true := by
  induction placed with
  | @intro node derived row inner ih =>
      have self : node.Placed := .intro derived row inner
      obtain ⟨rule, offset, text, children⟩ := node
      rw [conditions] at member
      split at member
      · rw [conditionsAll_eq] at member
        obtain ⟨child, among, below⟩ := List.mem_flatMap.1 member
        exact ih child among below
      · split at member
        · next kind =>
            rw [List.mem_singleton.1 member]
            exact ⟨self, kind⟩
        · cases member

theorem Placed.derived {node : Node} (placed : node.Placed) :
    Derives (.ref node.rule) node.offset node.text.toList [node] := by
  cases placed with
  | intro derived row inner => exact derived

/-- A node that stands in its place agrees with the grammar. -/
theorem Placed.formed {node : Node} (placed : node.Placed)
    (whole : (Phrase.ref node.rule).isWhole) : node.Formed :=
  (placed.derived.spells_and_formed whole).2 node (List.mem_singleton_self node)

theorem Placed.text_ne_nil {condition : Node} (placed : condition.Placed)
    (kind : condition.rule.isCondition = true) : condition.text.toList ≠ [] := by
  have visible : isVisible 8 condition.rule = true := by
    have known : ∀ rule ∈ [Rule.predicate, .booleanLiteral, .function],
        isVisible 8 rule = true := by
      decide +kernel
    refine known _ ?_
    revert kind
    cases condition.rule <;> first | exact fun _ => by decide | exact nofun
  obtain ⟨c, member, _⟩ := placed.derived.exists_visible (show
    (Phrase.ref condition.rule).isVisible (isVisible 8) = true from visible)
  exact List.ne_nil_of_mem member

theorem Row.pairwise {offset : Nat} {text : List Char} {nodes : List Node}
    (row : Row offset text nodes) (visible : ∀ node ∈ nodes, node.text.toList ≠ []) :
    (∀ node ∈ nodes, offset ≤ node.offset) ∧ nodes.Pairwise fun a b => a.offset < b.offset := by
  induction row with
  | nil => exact ⟨by simp, .nil⟩
  | @cons offset before after node nodes front others ih =>
      obtain ⟨one, rest⟩ := List.forall_mem_cons.1 visible
      obtain ⟨later, pairs⟩ := ih rest
      have size := Text.length_le_byteSize node.text.toList
      have positive := List.length_pos_iff.2 one
      have start : offset ≤ node.offset := by omega
      refine ⟨List.forall_mem_cons.2 ⟨start, fun other among => ?_⟩,
        .cons (fun other among => ?_) pairs⟩
      · have := later other among
        omega
      · have := later other among
        omega

end Node

namespace Setting

open Token

/-- The SQL of a filter is a row of tokens in which the conditions of the filter stand in order,
each with the SQL that it has on its own, a unit without a connective outside brackets and quotes.
No two conditions are the same, so that their truth values can be assigned freely, and under every
assignment the one reading of the tokens by the precedence of SQL gives the truth value of the
filter. -/
theorem reads_compile_iff (setting : Setting) {filter : String} {tree : Node} {result : SqlFilter}
    (accepted : Filter.parse filter = .ok tree) (compiled : setting.compile filter = .ok result) :
    ∃ tokens : List Token,
      renderAll tokens = result.sql ∧
      (leaves tokens).map Prod.fst = tree.conditions ∧
      (leaves tokens).map Prod.snd
        = (setting.walkAll tree.conditions {}).stack.reverse.map setting.dialect.value ∧
      (∀ leaf ∈ leaves tokens, Lexeme.IsUnit leaf.2.render) ∧
      (tree.conditions.Pairwise fun a b => a.offset < b.offset) ∧
      ∀ (assigned : Node → Truth) (value : Truth),
        Reads assigned .disjunction tokens value ↔ value = tree.truth assigned := by
  have formed := Filter.formed_of_parse accepted
  have whole := Filter.rule_of_parse accepted
  have placed := (Filter.placed_of_parse accepted).2
  have valued : tree.rule.hasTruth = true := by
    rw [whole]
    rfl
  obtain ⟨sql, bindings, done, rfl⟩ := translate_of_compile accepted compiled
  obtain ⟨clauses, parts, written, truths, emitted, leaves, paired⟩ :=
    means_of_translate formed (.inl valued) done
  obtain ⟨clause, rfl, text⟩ := written.only
  rw [Node.conditionsAll_singleton] at emitted leaves paired
  rw [List.flatMap_singleton] at leaves
  have walked : Compilation.Follows (setting.translateAll tree.conditions {}) {}
      (setting.walkAll tree.conditions {}) := by
    refine walkAll_follows {} (fun condition among => ?_) rfl rfl
    obtain ⟨place, kind⟩ := placed.of_mem_conditions among
    exact walk_follows (place.formed (by
      revert kind
      cases condition.rule <;> intro kind <;> first | rfl | cases kind))
  rw [emitted] at walked
  refine ⟨clause.tokens, text, ?_, ?_, (clause.reads fun _ => .yes).isUnit_of_mem, ?_,
    fun assigned value => ⟨fun reads => ?_, ?_⟩⟩
  · rw [leaves, List.map_fst_zip (by rw [List.length_map, paired])]
  · rw [leaves, List.map_snd_zip (by rw [List.length_map, paired]),
      show setting.walkAll tree.conditions {} = _ from walked]
    simp [Compilation.extend]
  · refine (placed.conditions_row.pairwise fun condition among => ?_).2
    obtain ⟨place, kind⟩ := placed.of_mem_conditions among
    exact place.text_ne_nil kind
  · have unit := reads.unique (.term (.factor (clause.reads assigned)))
    have only := truths assigned
    rw [Node.truths_singleton valued] at only
    exact unit.trans (List.singleton_inj.1 only)
  · rintro rfl
    have only := truths assigned
    rw [Node.truths_singleton valued] at only
    rw [← List.singleton_inj.1 only]
    exact .term (.factor (clause.reads assigned))

/-- A filter in which a negated condition has a connective of its own between its brackets. -/
theorem reads_compile_iff_nested :
    ∃ tree result,
      Filter.parse "NOT T_DURING(t, INTERVAL(x, y)) AND (a = b OR NOT e IS NULL)" = .ok tree ∧
      compile { dialect := .postgres }
        "NOT T_DURING(t, INTERVAL(x, y)) AND (a = b OR NOT e IS NULL)" = .ok result ∧
      result.sql = "(NOT (\"t\" > \"x\" AND \"t\" < \"y\") AND "
        ++ "(\"a\" = \"b\" OR NOT (\"e\" IS NULL)))" ∧
      ∃ tokens : List Token, renderAll tokens = result.sql ∧
        (leaves tokens).map Prod.fst = tree.conditions ∧
        (∀ leaf ∈ leaves tokens, Lexeme.IsUnit leaf.2.render) ∧
        ∀ (assigned : Node → Truth) (value : Truth),
          Reads assigned .disjunction tokens value ↔ value = tree.truth assigned := by
  have parsed : (Filter.parse
      "NOT T_DURING(t, INTERVAL(x, y)) AND (a = b OR NOT e IS NULL)").isOk = true := by
    decide +kernel
  have evaluated : (compile { dialect := .postgres }
      "NOT T_DURING(t, INTERVAL(x, y)) AND (a = b OR NOT e IS NULL)").toOption.map SqlFilter.sql
        = some ("(NOT (\"t\" > \"x\" AND \"t\" < \"y\") AND "
          ++ "(\"a\" = \"b\" OR NOT (\"e\" IS NULL)))") := by
    decide +kernel
  cases accepted : Filter.parse
      "NOT T_DURING(t, INTERVAL(x, y)) AND (a = b OR NOT e IS NULL)" with
  | error errors => rw [accepted] at parsed; cases parsed
  | ok tree =>
      cases compiled : compile { dialect := .postgres }
          "NOT T_DURING(t, INTERVAL(x, y)) AND (a = b OR NOT e IS NULL)" with
      | error reason => rw [compiled] at evaluated; cases evaluated
      | ok result =>
          rw [compiled] at evaluated
          obtain ⟨tokens, text, sources, _, units, _, reading⟩ :=
            reads_compile_iff { dialect := .postgres } accepted compiled
          exact ⟨tree, result, rfl, rfl, Option.some.inj evaluated, tokens, text, sources, units,
            reading⟩

end Setting

end Cql
