import Cql.Proofs.Compile.FirstOffence
import Cql.Proofs.Grammar.Placement

/-!
# The literals of a filter

The literals of a filter stand in its text one after the other, and none of them inside another. A
translation binds those whose values are to be bound, in this order and each by its own value.
-/

namespace Cql

open Cql.Sql Cql.Grammar

/-! ## Literals and their values -/

namespace Setting

/-- The nodes among the given ones that have a value to be bound. -/
def literalsOf (setting : Setting) (nodes : List Occurrence) : List Node :=
  (nodes.filter setting.binds).map Occurrence.node

def boundLiterals (setting : Setting) (tree : Node) : List Node :=
  setting.literalsOf (tree.postorder false)

/-- The value that a literal is bound by: its text, without the quotation marks around a date or a
point in time, and for a truth value what the dialect stores for it. -/
def boundValue (setting : Setting) (literal : Node) : String :=
  match literal.rule with
  | .dateString | .timestampString => String.ofList literal.text.toList.tail.dropLast
  | .booleanLiteral => setting.dialect.truthText (Text.sameWord literal.text "true")
  | _ => literal.text

/-- How a literal reaches the SQL: numbers and truth values as the setting says, all others as bound
parameters. -/
def placement (setting : Setting) (literal : Node) : Placement :=
  match literal.rule with
  | .numericLiteral | .westBoundLon | .southBoundLat | .eastBoundLon | .northBoundLat =>
      setting.literals.numbers
  | .booleanLiteral => setting.literals.truthValues
  | _ => .bound

variable {setting : Setting}

theorem literalsOf_append (nodes others : List Occurrence) :
    setting.literalsOf (nodes ++ others)
      = setting.literalsOf nodes ++ setting.literalsOf others := by
  simp [literalsOf]

theorem literalsOf_postorderAll (inCollection : Bool) (nodes : List Node) :
    setting.literalsOf (Node.postorderAll inCollection nodes)
      = nodes.flatMap fun node => setting.literalsOf (node.postorder inCollection) := by
  induction nodes with
  | nil => rfl
  | cons node nodes ih => rw [Node.postorderAll, literalsOf_append, ih, List.flatMap_cons]

/-- The text between two quotation marks is left when the marks are stripped off. -/
theorem stripBoth_quoted {text : String} {inner : List Char}
    (shape : text.toList = '\'' :: inner ++ ['\'']) (free : '\'' ∉ inner) :
    Text.stripBoth (· == '\'') text = String.ofList inner := by
  have plain {cs : List Char} (free : '\'' ∉ cs) : cs.dropWhile (· == '\'') = cs := by
    cases cs with
    | nil => rfl
    | cons c cs =>
        have differs : ¬ (c == '\'') = true := by
          intro same
          rw [beq_iff_eq.1 same] at free
          exact free (List.mem_cons_self ..)
        exact List.dropWhile_cons_of_neg differs
  have front : text.toList.dropWhile (· == '\'') = (inner ++ ['\'']).dropWhile (· == '\'') := by
    rw [shape, List.cons_append]
    exact List.dropWhile_cons_of_pos rfl
  cases inner with
  | nil =>
      rw [Text.stripBoth, front]
      rfl
  | cons c inner =>
      have kept : (c :: inner ++ ['\'']).dropWhile (· == '\'') = c :: inner ++ ['\''] := by
        refine List.dropWhile_cons_of_neg ?_
        intro same
        rw [beq_iff_eq.1 same] at free
        exact free (List.mem_cons_self ..)
      rw [Text.stripBoth, front, kept, List.reverse_append]
      change String.ofList (List.dropWhile _ ('\'' :: (c :: inner).reverse)).reverse = _
      rw [List.dropWhile_cons_of_pos rfl, plain (fun among => free (List.mem_reverse.1 among)),
        List.reverse_reverse]

/-- Stripping the quotation marks off a text takes its first and its last character away. -/
theorem stripBoth_eq_dropLast {text : String} {inner : List Char}
    (shape : text.toList = '\'' :: inner ++ ['\'']) (free : ∀ c ∈ inner, c ∉ ['\'']) :
    Text.stripBoth (· == '\'') text = String.ofList text.toList.tail.dropLast := by
  have plain : '\'' ∉ inner := fun among => free _ among (List.mem_singleton_self _)
  rw [stripBoth_quoted shape plain, shape, List.cons_append, List.tail_cons,
    List.dropLast_concat]

theorem value_of_bind {node : Node} (formed : node.Formed) {value : String}
    {wrap : Fragment → Operand} (acts : setting.action false node = .bind value wrap) :
    value = setting.boundValue node := by
  have agrees := setting.action_agrees formed
  rw [acts] at agrees
  obtain ⟨rule, offset, text, children⟩ := node
  cases rule with
  | characterLiteral | geometryLiteral | geometryCollection =>
      cases acts
      rfl
  | dateString =>
      cases acts
      obtain ⟨_, _, ⟨_, date, rfl, day, rfl⟩, rfl, shape⟩ := formed.taken rfl
      exact stripBoth_eq_dropLast shape (Pattern.not_mem_of_takes day (by decide))
  | timestampString =>
      cases acts
      obtain ⟨_, _, ⟨_, time, ⟨_, letter, ⟨_, date, rfl, day, rfl⟩, between, rfl⟩, hour, rfl⟩,
        rfl, shape⟩ := formed.taken rfl
      have whole : text.toList = '\'' :: (date ++ letter ++ time) ++ ['\''] := shape
      refine stripBoth_eq_dropLast whole fun c among => ?_
      rcases List.mem_append.1 among with front | inTime
      · rcases List.mem_append.1 front with inDate | inLetter
        · exact Pattern.not_mem_of_takes day (by decide) c inDate
        · exact Pattern.not_mem_of_takes between (by decide) c inLetter
      · exact Pattern.not_mem_of_takes hour (by decide) c inTime
  | numericLiteral | westBoundLon | southBoundLat | eastBoundLon | northBoundLat =>
      simp only [action, scalar] at acts
      split at acts <;> cases acts
      rfl
  | booleanLiteral =>
      simp only [action, boolean, scalar] at acts
      split at acts <;> cases acts
      rfl
  | _ => cases agrees.1

end Setting

/-! ### What becomes of a literal -/

def Rule.isLiteral : Rule → Bool
  | .characterLiteral | .dateString | .timestampString | .geometryLiteral | .geometryCollection
  | .numericLiteral | .westBoundLon | .southBoundLat | .eastBoundLon | .northBoundLat
  | .booleanLiteral => true
  | _ => false

/-- Whether the rule is that of a number or a truth value. -/
def Rule.isScalar : Rule → Bool
  | .numericLiteral | .westBoundLon | .southBoundLat | .eastBoundLon | .northBoundLat
  | .booleanLiteral => true
  | _ => false

namespace Node

def boundOperand (literal : Node) (placeholder : Fragment) : Operand :=
  match literal.rule with
  | .numericLiteral | .westBoundLon | .southBoundLat | .eastBoundLon | .northBoundLat
  | .booleanLiteral => .scalar placeholder true
  | .geometryLiteral | .geometryCollection => .loose (Dialect.geometryOf placeholder)
  | _ => .loose placeholder

/-- A literal as part of the text of the SQL: a number by its own text, and a truth value by the
word for it. -/
def inlineText (literal : Node) : String :=
  match literal.rule with
  | .booleanLiteral => if Text.sameWord literal.text "true" then "TRUE" else "FALSE"
  | _ => literal.text

def literals (tree : Node) : List Node :=
  Setting.boundLiterals { dialect := .geoPackage } tree

end Node

namespace Setting

variable {setting : Setting}

theorem action_of_bound {node : Node} (formed : node.Formed) (literal : node.rule.isLiteral = true)
    (placed : setting.placement node = .bound) :
    setting.action false node = .bind (setting.boundValue node) node.boundOperand := by
  have acts : ∃ value, setting.action false node = .bind value node.boundOperand := by
    obtain ⟨rule, offset, text, children⟩ := node
    cases rule with
    | characterLiteral | dateString | timestampString | geometryLiteral | geometryCollection =>
        exact ⟨_, rfl⟩
    | numericLiteral | westBoundLon | southBoundLat | eastBoundLon | northBoundLat
    | booleanLiteral =>
        simp only [placement] at placed
        simp only [action, boolean, placed]
        exact ⟨_, rfl⟩
    | _ => cases literal
  obtain ⟨value, acts⟩ := acts
  rw [acts, value_of_bind formed acts]

/-- Only numbers and truth values are ever part of the text. -/
theorem isScalar_of_inline {node : Node} (placed : setting.placement node = .inline) :
    node.rule.isScalar = true := by
  obtain ⟨rule, offset, text, children⟩ := node
  cases rule <;> first | rfl | cases placed

theorem boundOperand_of_isScalar {node : Node} (scalar : node.rule.isScalar = true)
    (placeholder : Fragment) : node.boundOperand placeholder = .scalar placeholder true := by
  obtain ⟨rule, offset, text, children⟩ := node
  cases rule <;> first | rfl | cases scalar

theorem action_of_inline {node : Node} (placed : setting.placement node = .inline) :
    setting.action false node = .push (.scalar node.inlineText false) := by
  obtain ⟨rule, offset, text, children⟩ := node
  cases rule with
  | numericLiteral | westBoundLon | southBoundLat | eastBoundLon | northBoundLat
  | booleanLiteral =>
      simp only [placement] at placed
      simp only [action, boolean, placed]
      rfl
  | _ => cases placed

/-- A literal is bound where its placement says so. -/
theorem binds_eq (setting : Setting) (here : Occurrence) :
    setting.binds here
      = (binds { dialect := .geoPackage } here && setting.placement here.node == .bound) := by
  obtain ⟨⟨rule, offset, text, children⟩, inCollection⟩ := here
  cases rule <;> simp [binds, placement]

theorem binds_allBound (node : Node) :
    binds { dialect := .geoPackage } ⟨node, false⟩ = node.rule.isLiteral := by
  obtain ⟨rule, offset, text, children⟩ := node
  cases rule <;> rfl

theorem boundLiterals_eq_filter (setting : Setting) (tree : Node) :
    setting.boundLiterals tree
      = tree.literals.filter fun literal => setting.placement literal == .bound := by
  have split : setting.binds = fun here =>
      setting.placement here.node == .bound && binds { dialect := .geoPackage } here := by
    funext here
    rw [binds_eq, Bool.and_comm]
  rw [boundLiterals, literalsOf, split, ← List.filter_filter, Node.literals, boundLiterals,
    literalsOf, List.filter_map]
  rfl

end Setting

def Bindings.values (bindings : Bindings) : List String :=
  bindings.params.map Prod.snd

namespace Setting

variable {setting : Setting}

theorem literalsOf_eq_nil {kind : Rule → Bool} {inCollection : Bool}
    (closed : ∀ {node child : Node}, node.Formed → kind node.rule = true →
      child ∈ node.children → kind child.rule = true)
    (silent : ∀ node : Node, kind node.rule = true → setting.binds ⟨node, inCollection⟩ = false)
    (outside : kind .geometryCollection = false) {node : Node} (formed : node.Formed)
    (part : kind node.rule = true) :
    setting.literalsOf (node.postorder inCollection) = [] := by
  induction formed using Node.Formed.induction with
  | step node formed ih =>
      have single : (node.rule == .geometryCollection) = false := by
        refine beq_false_of_ne fun collection => ?_
        rw [collection, outside] at part
        cases part
      have children : (node.children.flatMap fun child =>
          setting.literalsOf (child.postorder inCollection)) = [] := by
        rw [List.flatMap_eq_nil_iff]
        exact fun child among => ih child among (closed formed part among)
      rw [postorder_eq, single, Bool.or_false, literalsOf_append, literalsOf_postorderAll, children]
      simp [literalsOf, silent node part]

theorem literalsOf_members {node : Node} (formed : node.Formed)
    (collection : node.rule = .geometryCollection) :
    setting.literalsOf (Node.postorderAll true node.children) = [] := by
  rw [literalsOf_postorderAll, List.flatMap_eq_nil_iff]
  intro child among
  exact literalsOf_eq_nil (fun formed part => formed.isGeometryPart_of_child part)
    (fun node part => (setting.binds_of_isGeometryPart part).1) rfl (formed.children child among)
    (formed.isGeometryPart_of_member collection among)

theorem boundLiterals_eq {node : Node} (formed : node.Formed) :
    setting.boundLiterals node
      = (if node.rule = .geometryCollection then []
          else node.children.flatMap setting.boundLiterals)
        ++ if setting.binds ⟨node, false⟩ then [node] else [] := by
  have self : setting.literalsOf [⟨node, false⟩]
      = if setting.binds ⟨node, false⟩ then [node] else [] := by
    rw [literalsOf, List.filter_cons]
    split <;> rfl
  rw [boundLiterals, postorder_eq, Bool.false_or, literalsOf_append, self]
  by_cases collection : node.rule = .geometryCollection
  · rw [if_pos collection, beq_iff_eq.2 collection, literalsOf_members formed collection]
  · rw [if_neg collection, beq_false_of_ne collection, literalsOf_postorderAll]
    rfl

theorem literals_eq {node : Node} (formed : node.Formed) :
    node.literals
      = (if node.rule = .geometryCollection then [] else node.children.flatMap Node.literals)
        ++ if node.rule.isLiteral then [node] else [] := by
  rw [Node.literals, boundLiterals_eq formed, binds_allBound]
  rfl

theorem values_of_assemble {node : Node} (formed : node.Formed) {parts operands : List Operand}
    {before after : Bindings}
    (done : setting.assemble (setting.action false node) parts before = .ok (operands, after)) :
    after.values = before.values
      ++ (if setting.binds ⟨node, false⟩ then [node] else []).map setting.boundValue := by
  have agrees := setting.action_agrees formed
  cases acts : setting.action false node with
  | bind value wrap =>
      rw [acts] at agrees done
      obtain ⟨_, _, bound⟩ := assemble_bind_ok done
      obtain ⟨name, drawn, _, _, rfl⟩ := Bindings.fresh_of_bind_ok bound
      rw [agrees.1, value_of_bind formed acts]
      simp [Bindings.values]
  | keep | push operand | combine count result =>
      rw [acts] at agrees done
      cases done
      rw [agrees.1]
      simp
  | refuse reason =>
      rw [acts] at done
      cases done

theorem values_of_translateAll {nodes : List Node} {operands : List Operand}
    {before after : Bindings}
    (each : ∀ node ∈ nodes, ∀ {operands : List Operand} {before after : Bindings},
      setting.translate node before = .ok (operands, after) →
        after.values = before.values ++ (setting.boundLiterals node).map setting.boundValue)
    (done : setting.translateAll nodes before = .ok (operands, after)) :
    after.values = before.values
      ++ (nodes.flatMap setting.boundLiterals).map setting.boundValue := by
  induction nodes generalizing operands before with
  | nil =>
      cases done
      simp
  | cons node nodes ih =>
      obtain ⟨first, mid, others, one, rest, rfl⟩ := translateAll_cons_ok.1 done
      rw [ih (fun other among => each other (List.mem_cons_of_mem _ among)) rest,
        each node (List.mem_cons_self ..) one, List.flatMap_cons, List.map_append,
        List.append_assoc]

theorem values_of_translate {node : Node} (formed : node.Formed) {operands : List Operand}
    {before after : Bindings} (done : setting.translate node before = .ok (operands, after)) :
    after.values = before.values ++ (setting.boundLiterals node).map setting.boundValue := by
  induction formed using Node.Formed.induction generalizing operands before after with
  | step node formed ih =>
      rw [boundLiterals_eq formed]
      by_cases collection : node.rule = .geometryCollection
      · rw [setting.translate_collection before collection] at done
        rw [if_pos collection, List.nil_append]
        exact values_of_assemble formed done
      · obtain ⟨parts, mid, inner, put⟩ := (translate_ok collection).1 done
        rw [if_neg collection, values_of_assemble formed put,
          values_of_translateAll (fun child among => ih child among) inner, List.map_append,
          List.append_assoc]

/-! ### The order of the literals -/

/-- Whether the rule describes a geometry that is no collection, or a part of it. -/
def isShape (rule : Rule) : Bool :=
  rule.isGeometryPart && rule != .geometryLiteral

theorem isShape_definition (rule : Rule) :
    (!rule.isGeometryPart || match definition rule with
      | .phrase body => body.mentions.all isShape
      | _ => true) = true := by
  cases rule <;> rfl

theorem isShape_of_child {node child : Node} (formed : node.Formed)
    (part : node.rule.isGeometryPart = true) (among : child ∈ node.children) :
    isShape child.rule = true := by
  have closed := isShape_definition node.rule
  rw [part] at closed
  exact formed.all_of_child closed among

theorem literals_of_children {node : Node} (formed : node.Formed)
    (binds : setting.binds ⟨node, false⟩ = true) (single : node.rule ≠ .geometryCollection) :
    node.children.flatMap setting.boundLiterals = [] := by
  have token {pattern : Pattern} (defined : definition node.rule = .token pattern) :
      node.children.flatMap setting.boundLiterals = [] := by
    rw [formed.children_of_token defined]
    rfl
  have shapes (part : node.rule.isGeometryPart = true) :
      node.children.flatMap setting.boundLiterals = [] := by
    rw [List.flatMap_eq_nil_iff]
    intro child among
    have closed {node child : Node} (formed : node.Formed) (part : isShape node.rule = true)
        (among : child ∈ node.children) : isShape child.rule = true :=
      isShape_of_child formed (Bool.and_eq_true_iff.1 part).1 among
    refine literalsOf_eq_nil closed (fun other part => ?_) rfl
      (formed.children child among) (isShape_of_child formed part among)
    obtain ⟨rule, offset, text, children⟩ := other
    cases rule <;> first | rfl | cases part
  obtain ⟨rule, offset, text, children⟩ := node
  cases rule with
  | characterLiteral | dateString | timestampString | numericLiteral | westBoundLon
  | southBoundLat | eastBoundLon | northBoundLat | booleanLiteral => exact token rfl
  | geometryLiteral => exact shapes rfl
  | geometryCollection => exact absurd rfl single
  | _ => cases binds

theorem literals_row {node : Node} (placed : node.Placed) (formed : node.Formed) :
    Node.Row node.offset node.text.toList (setting.boundLiterals node) := by
  induction placed with
  | @intro node derived row inner ih =>
      have children := row.flatMap fun child among => ih child among (formed.children child among)
      rw [boundLiterals_eq formed]
      by_cases binds : setting.binds ⟨node, false⟩ = true
      · rw [if_pos binds]
        split
        · exact Node.Row.singleton node
        · next single =>
            rw [literals_of_children formed binds single]
            exact Node.Row.singleton node
      · rw [if_neg binds, List.append_nil]
        split
        · exact .nil _ _
        · exact children

/-- The literals of a filter stand in its text, one after the other. -/
theorem literals_row_of_parse {filter : String} {tree : Node}
    (accepted : Filter.parse filter = .ok tree) :
    Node.Row 0 filter.toList (setting.boundLiterals tree) := by
  obtain ⟨row, placed⟩ := Filter.placed_of_parse accepted
  have literals : Node.Row 0 filter.toList ([tree].flatMap setting.boundLiterals) := by
    refine row.flatMap fun node among => ?_
    rw [List.mem_singleton.1 among]
    exact literals_row placed (Filter.formed_of_parse accepted)
  rwa [List.flatMap_singleton] at literals

/-! ### Names and values -/

theorem names_length (bindings : Bindings) : bindings.names.length = bindings.values.length := by
  simp [Bindings.names, Bindings.values]

theorem mem_params_of_getElem? {bindings : Bindings} {number : Nat} {name : String}
    (named : bindings.names[number]? = some name) :
    ∃ value, bindings.values[number]? = some value ∧ (name, value) ∈ bindings.params := by
  rw [Bindings.names, List.getElem?_map] at named
  obtain ⟨param, found, rfl⟩ := Option.map_eq_some_iff.1 named
  refine ⟨param.2, ?_, List.mem_of_getElem? found⟩
  rw [Bindings.values, List.getElem?_map, found]
  rfl

end Setting

end Cql
