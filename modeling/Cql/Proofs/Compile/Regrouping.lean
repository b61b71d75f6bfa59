import Cql.Proofs.Compile.BoundLiteral
import Cql.Proofs.Compile.LiteralBlindness
import Cql.Proofs.Compile.PairedAction
import Cql.Proofs.Filter.Regrouping

/-!
# Redundant brackets vanish

A condition in brackets is closed: its SQL stands in brackets of its own, or needs none. A condition
that is closed already is left as it is. So further brackets around a condition in brackets, or
around a whole filter, change nothing in the SQL and in its parameters, and nothing in the reason
for which a filter does not compile.
-/

namespace Cql

open Cql.Sql Cql.Grammar

/-! ## What the compiler looks at -/

theorem Rule.isLabelled_of_isRead {rule : Rule} {literals : LiteralPlacement}
    (read : rule.isRead literals = true) : rule.isLabelled = true := by
  cases rule <;> first | rfl | cases read

namespace Node

variable {node : Node} {rule : Rule}

theorem plainAll_eq_map (nodes : List Node) : plainAll nodes = nodes.map plain := by
  induction nodes with
  | nil => rfl
  | cons node nodes ih => rw [plainAll, ih, List.map_cons]

theorem plain_of_isGeometry (geometry : node.rule.isGeometry = true) :
    node.plain = ⟨node.rule, 0, node.text, []⟩ := by
  cases node
  rw [plain, if_pos geometry]

theorem plain_of_not_isGeometry (inner : node.rule.isGeometry = false) :
    node.plain = ⟨node.rule, 0, if node.rule.isLabelled then node.text else "",
      plainAll node.children⟩ := by
  cases node
  rw [plain, if_neg (Bool.eq_false_iff.1 inner)]

theorem children_plain (inner : node.rule.isGeometry = false) :
    node.plain.children = plainAll node.children := by
  rw [plain_of_not_isGeometry inner]

theorem text_plain (inner : node.rule.isGeometry = false) (labelled : node.rule.isLabelled = true) :
    node.plain.text = node.text := by
  rw [plain_of_not_isGeometry inner]
  exact if_pos labelled

theorem text_plain_of_isLiteral (literal : node.rule.isLiteral = true) :
    node.plain.text = node.text := by
  obtain ⟨rule, offset, text, children⟩ := node
  cases rule <;> first | rfl | cases literal

theorem child?_plain (inner : node.rule.isGeometry = false) (rule : Rule) :
    node.plain.child? rule = (node.child? rule).map plain := by
  rw [child?, child?, children_plain inner, plainAll_eq_map, List.find?_map]
  simp only [Function.comp_def, rule_plain]

theorem similar_plain (literals : LiteralPlacement) (inner : node.rule.isGeometry = false) :
    Similar literals node.plain node := by
  have named {rule : Rule} {child : Node} (found : node.child? rule = some child) :
      child.rule = rule :=
    beq_iff_eq.1 (List.find?_some (p := fun child : Node => child.rule == rule) found)
  refine ⟨?_, fun rule read => ?_, ?_⟩
  · rw [children_plain inner, rules_plainAll]
  · have known : rule.isGeometry = false := by
      cases rule <;> first | rfl | cases read
    rw [child?_plain inner]
    cases found : node.child? rule with
    | none => rfl
    | some child =>
        rw [← named found] at known read
        exact congrArg some (text_plain known (Rule.isLabelled_of_isRead read))
  · rw [argumentCount, argumentCount, child?_plain inner]
    cases found : node.child? .argumentList with
    | none => rfl
    | some child =>
        have known : child.rule.isGeometry = false := by
          rw [named found]
          rfl
        simp only [Option.map_some, children_plain known, plainAll_eq_map, List.length_map]

end Node

namespace Setting

variable {setting : Setting} {node other condition : Node} {nodes : List Node} {before : Bindings}

theorem action_of_text (literal : node.rule.isLiteral = true) (rules : other.rule = node.rule)
    (text : other.text = node.text) : setting.action false other = setting.action false node := by
  obtain ⟨rule, offset, text, children⟩ := node
  obtain ⟨rule', offset', text', children'⟩ := other
  cases rules
  cases text
  cases rule <;> first | exact absurd literal Bool.false_ne_true | rfl

theorem action_plain (formed : node.Formed) :
    setting.action false node.plain = setting.action false node := by
  by_cases literal : node.rule.isLiteral = true
  · exact action_of_text literal node.rule_plain (Node.text_plain_of_isLiteral literal)
  · have inner : node.rule.isGeometry = false := by
      cases kind : node.rule <;> first | rfl | exact absurd (by rw [kind]; rfl) literal
    have acts : (setting.action false node.plain).blind = (setting.action false node).blind := by
      refine action_blind_of_similar node.rule_plain (fun read => ?_)
        (Node.similar_plain setting.literals inner)
      rw [Node.rule_plain] at read
      exact Node.text_plain inner (Rule.isLabelled_of_isRead read)
    rcases Action.blind_eq acts with same | ⟨value, value', wrap, _, bound⟩
    · exact same
    · have agrees := setting.action_agrees formed
      rw [bound] at agrees
      have binds : setting.binds ⟨node, false⟩ = true := agrees.1
      rw [binds_eq, binds_allBound, Bool.and_eq_true] at binds
      exact absurd binds.1 literal

theorem translateAll_nil
    (each : ∀ node ∈ nodes, ∀ before, setting.translate node before = .ok ([], before))
    (before : Bindings) : setting.translateAll nodes before = .ok ([], before) := by
  induction nodes with
  | nil => rfl
  | cons node nodes ih =>
      obtain ⟨first, others⟩ := List.forall_mem_cons.1 each
      exact translateAll_cons_ok.2 ⟨[], before, [], first before, ih others, rfl⟩

theorem translate_shape (formed : node.Formed) (shape : isShape node.rule = true)
    (before : Bindings) : setting.translate node before = .ok ([], before) := by
  induction formed using Node.Formed.induction generalizing before with
  | step node formed ih =>
      have part : node.rule.isGeometryPart = true := (Bool.and_eq_true_iff.1 shape).1
      have children : setting.translateAll node.children before = .ok ([], before) :=
        translateAll_nil (fun child among =>
          ih child among (isShape_of_child formed part among)) before
      have acts : node.rule ≠ .geometryCollection ∧ setting.action false node = .keep := by
        obtain ⟨rule, offset, text, children⟩ := node
        cases rule <;> first | exact ⟨Rule.noConfusion, rfl⟩ | cases shape
      rw [setting.translate_eq before acts.1, children, acts.2]
      rfl

def SameOperands (setting : Setting) (node other : Node) : Prop :=
  ∀ before, setting.translate other before = setting.translate node before

theorem translateAll_congr {others : List Node}
    (each : List.Forall₂ setting.SameOperands nodes others) (before : Bindings) :
    setting.translateAll others before = setting.translateAll nodes before := by
  induction each generalizing before with
  | nil => rfl
  | cons first _ ih => simp only [translateAll, first _, ih]

theorem translate_plain (formed : node.Formed) : setting.SameOperands node node.plain := by
  induction formed using Node.Formed.induction with
  | step node formed ih =>
      intro before
      have acts := setting.action_plain formed
      by_cases collection : node.rule = .geometryCollection
      · rw [setting.translate_collection before collection,
          setting.translate_collection before (node.rule_plain.trans collection), acts]
      · rw [setting.translate_eq before collection,
          setting.translate_eq before (node.rule_plain ▸ collection), acts]
        congr 1
        by_cases literal : node.rule = .geometryLiteral
        · have part : node.rule.isGeometryPart = true := by rw [literal]; rfl
          rw [Node.plain_of_isGeometry (by rw [literal]; rfl), translateAll_nil fun child among =>
            translate_shape (formed.children child among) (isShape_of_child formed part among)]
          rfl
        · have inner : node.rule.isGeometry = false := by
            simp [Rule.isGeometry, literal, collection]
          rw [Node.children_plain inner, Node.plainAll_eq_map]
          exact translateAll_congr
            (List.forall₂_map_right_iff.2 (List.forall₂_same.2 fun child among => ih child among))
            before

/-! ## One more group -/

theorem translateAll_first
    (silent : ∀ before, setting.translateAll nodes before = .ok ([], before)) (before : Bindings) :
    setting.translateAll (node :: nodes) before = setting.translate node before := by
  rw [translateAll]
  cases setting.translate node before with
  | error reason => rfl
  | ok pair =>
      simp only [Except.bind, silent, Except.map, List.append_nil]

theorem translate_of_keep {rule : Rule} {part : Node} (single : rule ≠ .geometryCollection)
    (acts : setting.action false ⟨rule, 0, "", [part]⟩ = .keep) (before : Bindings) :
    setting.translate ⟨rule, 0, "", [part]⟩ before = setting.translate part before := by
  rw [setting.translate_eq before single, acts, translateAll_first fun _ => rfl]
  cases setting.translate part before <;> rfl

def close (setting : Setting) (done : List Operand × Bindings) : List Operand × Bindings :=
  (done.1.map fun operand => .closed (setting.dialect.closedValue operand), done.2)

theorem close_close (setting : Setting) (done : List Operand × Bindings) :
    setting.close (setting.close done) = setting.close done := by
  simp only [close, List.map_map]
  rfl

def IsSingle (setting : Setting) (condition : Node) (before : Bindings) : Prop :=
  ∀ operands after, setting.translate condition before = .ok (operands, after) →
    operands.length = 1

theorem translate_of_closing {rule : Rule} (single : setting.IsSingle condition before)
    (closes : rule ≠ .geometryCollection ∧
      setting.action false ⟨rule, 0, "", condition :: nodes⟩
        = .combine1 fun operand => .closed (setting.dialect.closedValue operand))
    (silent : ∀ before, setting.translateAll nodes before = .ok ([], before)) :
    setting.translate ⟨rule, 0, "", condition :: nodes⟩ before
      = (setting.translate condition before).map setting.close := by
  rw [setting.translate_eq before closes.1, closes.2, translateAll_first silent]
  cases done : setting.translate condition before with
  | error reason => rfl
  | ok pair =>
      obtain ⟨operand, whole⟩ := List.length_eq_one_iff.1 (single _ _ done)
      obtain ⟨operands, after⟩ := pair
      cases whole
      rfl

theorem translate_group (kind : condition.rule = .booleanExpression)
    (single : setting.IsSingle condition before) :
    setting.translate ⟨.booleanPrimary, 0, "", [condition]⟩ before
      = (setting.translate condition before).map setting.close := by
  refine translate_of_closing single ⟨Rule.noConfusion, ?_⟩ fun _ => rfl
  have includes :
      Node.includes ⟨.booleanPrimary, 0, "", [condition]⟩ .booleanExpression = true := by
    simp [Node.includes, kind]
  simp only [action, includes, if_true, closed_closedValue]

theorem translate_inBrackets (kind : condition.rule = .booleanExpression)
    (single : setting.IsSingle condition before) :
    setting.translate condition.inBrackets before
      = (setting.translate condition before).map setting.close := by
  rw [Node.inBrackets, translate_of_keep Rule.noConfusion rfl,
    translate_of_keep Rule.noConfusion rfl, translate_of_keep Rule.noConfusion rfl,
    translate_group kind single]

theorem IsSingle.inBrackets (kind : condition.rule = .booleanExpression)
    (single : setting.IsSingle condition before) :
    setting.IsSingle condition.inBrackets before := by
  intro operands after done
  rw [translate_inBrackets kind single] at done
  cases inner : setting.translate condition before with
  | error reason => rw [inner] at done; cases done
  | ok pair =>
      rw [inner] at done
      cases done
      exact (List.length_map _).trans (single _ _ inner)

theorem map_close_close (outcome : Except CompileError (List Operand × Bindings)) :
    (outcome.map setting.close).map setting.close = outcome.map setting.close := by
  cases outcome with
  | error reason => rfl
  | ok done => exact congrArg Except.ok (setting.close_close done)

theorem isSingle_plain (formed : condition.Formed) (kind : condition.rule = .booleanExpression)
    (before : Bindings) : setting.IsSingle condition.plain before := by
  intro operands after done
  rw [translate_plain formed before] at done
  rw [length_of_translate formed done, Node.operandCount_of_rule (n := 1) (by rw [kind]; rfl)]

theorem action_of_isConnection {rule : Rule} {others : List Node} (outer : rule.isConnection = true)
    (rules : others.map Node.rule = nodes.map Node.rule) :
    setting.action false ⟨rule, 0, "", others⟩ = setting.action false ⟨rule, 0, "", nodes⟩ := by
  have includes (part : Rule) :
      Node.includes ⟨rule, 0, "", others⟩ part = Node.includes ⟨rule, 0, "", nodes⟩ part := by
    rw [Bool.eq_iff_iff, Node.includes_iff, Node.includes_iff]
    simp only [rules]
  have count (part : Rule) :
      Node.count ⟨rule, 0, "", others⟩ part = Node.count ⟨rule, 0, "", nodes⟩ part := by
    rw [Node.count_eq, Node.count_eq]
    simp only [rules]
  cases rule with
  | cqlFilter => rfl
  | booleanExpression | booleanTerm | booleanFactor | booleanPrimary =>
      simp only [action, includes, count]
  | _ => cases outer

theorem translate_regrouped (regrouped : node.Regrouped other) :
    setting.SameOperands node other := by
  induction regrouped with
  | @filter condition formed kind =>
      intro before
      have single := setting.isSingle_plain formed kind before
      have named : condition.plain.rule = .booleanExpression := condition.rule_plain.trans kind
      have ending (before : Bindings) :
          setting.translateAll [⟨.endOfInput, 0, "", []⟩] before = .ok ([], before) := rfl
      rw [translate_of_closing single ⟨Rule.noConfusion, rfl⟩ ending,
        translate_of_closing (single.inBrackets named) ⟨Rule.noConfusion, rfl⟩ ending,
        translate_inBrackets named single, map_close_close]
  | @group condition formed kind =>
      intro before
      have single := setting.isSingle_plain formed kind before
      have named : condition.plain.rule = .booleanExpression := condition.rule_plain.trans kind
      rw [translate_group named single, translate_group rfl (single.inBrackets named),
        translate_inBrackets named single, map_close_close]
  | @inside rule front back node other outer deeper ih =>
      have multiple : rule ≠ .geometryCollection := by
        rintro rfl
        cases outer
      have rules :
          (front ++ other :: back).map Node.rule = (front ++ node :: back).map Node.rule := by
        simp [deeper.rule_eq]
      have same (nodes : List Node) : List.Forall₂ setting.SameOperands nodes nodes :=
        List.forall₂_same.2 fun _ _ _ => rfl
      intro before
      rw [setting.translate_eq before multiple, setting.translate_eq before multiple,
        translateAll_congr (List.rel_append (same front) (.cons ih (same back))),
        action_of_isConnection outer rules]

/-! ## Whole filters -/

theorem compile_congr {filter other : String} {tree tree' : Node}
    (found : Filter.parse filter = .ok tree) (found' : Filter.parse other = .ok tree')
    (same : setting.SameOperands tree tree') : setting.compile other = setting.compile filter := by
  have both := same {}
  cases done : setting.translate tree {} with
  | error reason =>
      rw [compile_error found done, compile_error found' (both.trans done)]
  | ok pair =>
      obtain ⟨sql, shape, compiled⟩ := compile_ok found done
      obtain ⟨sql', shape', compiled'⟩ := compile_ok found' (both.trans done)
      rw [shape] at shape'
      cases shape'
      rw [compiled, compiled']

theorem compile_of_regrouped {filter other : String} {tree tree' : Node}
    (found : Filter.parse filter = .ok tree)
    (read : Grammar.parse .cqlFilter other.toList = .ok [tree'])
    (regrouped : tree.plain.Regrouped tree'.plain)
    (shallow : Filter.firstOverdeep other.toList Filter.nestingLimit = none) :
    setting.compile other = setting.compile filter := by
  have found' : Filter.parse other = .ok tree' := Filter.parse_eq_ok_iff.2 ⟨shallow, read⟩
  refine compile_congr found found' fun before => ?_
  rw [← translate_plain (Filter.formed_of_parse found) before,
    ← translate_plain (Filter.formed_of_parse found') before]
  exact translate_regrouped regrouped before

/-- Redundant brackets change nothing. A filter in brackets compiles to what the filter compiles to,
or fails for the same reason. So does a filter in which a condition that stands in brackets is put
into brackets once more. In both cases the brackets must not nest deeper than is read at all. -/
theorem compile_regrouped (setting : Setting) {filter : String} {tree : Node}
    (found : Filter.parse filter = .ok tree) :
    (Filter.firstOverdeep ("(" ++ filter ++ ")").toList Filter.nestingLimit = none →
      setting.compile ("(" ++ filter ++ ")") = setting.compile filter) ∧
    ∀ group ∈ tree.preorder, group.rule = .booleanPrimary →
      group.includes .booleanExpression = true →
        ∃ before inner after : String, filter = before ++ "(" ++ inner ++ ")" ++ after ∧
          before.utf8ByteSize = group.offset ∧ group.text = "(" ++ inner ++ ")" ∧
          (Filter.firstOverdeep (before ++ "((" ++ inner ++ "))" ++ after).toList
              Filter.nestingLimit = none →
            setting.compile (before ++ "((" ++ inner ++ "))" ++ after)
              = setting.compile filter) := by
  obtain ⟨_, read⟩ := Filter.parse_eq_ok_iff.1 found
  refine ⟨fun shallow => ?_, fun group among kind includes => ?_⟩
  · obtain ⟨other, read', regrouped⟩ := Filter.exists_parse_inBrackets read
    refine compile_of_regrouped found ?_ regrouped shallow
    simpa using read'
  · obtain ⟨before, inner, after, whole, place, text, other, read', regrouped⟩ :=
      Filter.exists_parse_regrouped read among kind includes
    refine ⟨.ofList before, .ofList inner, .ofList after, ?_, ?_, ?_, fun shallow => ?_⟩
    · exact String.toList_inj.1 (by simpa using whole)
    · rw [Text.utf8ByteSize_ofList, place]
    · exact String.toList_inj.1 (by simpa using text)
    · refine compile_of_regrouped found ?_ regrouped shallow
      simpa using read'

/-- A filter that begins with a condition in brackets, with more brackets around all of it and
around that condition. -/
theorem compile_regrouped_chain :
    let setting : Setting := { dialect := .geoPackage }
    setting.compile "((a = 1 OR TRUE) AND NOT (b < 2))"
        = setting.compile "(a = 1 OR TRUE) AND NOT (b < 2)" ∧
      setting.compile "((a = 1 OR TRUE)) AND NOT (b < 2)"
        = setting.compile "(a = 1 OR TRUE) AND NOT (b < 2)" ∧
      (setting.compile "(a = 1 OR TRUE) AND NOT (b < 2)").toOption.map SqlFilter.sql
        = some
            "((\"a\" = :cql_bcde OR CAST(:cql_fghi AS NUMERIC)) AND NOT (\"b\" < :cql_jklm))" := by
  intro setting
  have grouped : ((Filter.parse "(a = 1 OR TRUE) AND NOT (b < 2)").toOption.any fun tree =>
      tree.preorder.any fun node => node.rule == .booleanPrimary
        && node.includes .booleanExpression && node.offset == 0
        && node.text == "(a = 1 OR TRUE)") = true := by
    decide +kernel
  cases found : Filter.parse "(a = 1 OR TRUE) AND NOT (b < 2)" with
  | error errors => rw [found] at grouped; cases grouped
  | ok tree =>
      rw [found] at grouped
      obtain ⟨group, among, facts⟩ := List.any_eq_true.1 grouped
      simp only [Bool.and_eq_true, beq_iff_eq] at facts
      obtain ⟨⟨⟨kind, includes⟩, place⟩, text⟩ := facts
      obtain ⟨whole, groups⟩ := compile_regrouped setting found
      obtain ⟨before, inner, after, parts, size, shape, same⟩ := groups group among kind includes
      obtain rfl : before = "" := String.utf8ByteSize_eq_zero_iff.1 (size.trans place)
      obtain rfl : inner = "a = 1 OR TRUE" := by
        have split : "(" ++ inner ++ ")" = "(" ++ "a = 1 OR TRUE" ++ ")" := shape.symm.trans text
        exact (String.append_right_inj _).1 ((String.append_left_inj _).1 split)
      obtain rfl : after = " AND NOT (b < 2)" := by
        have split : "(a = 1 OR TRUE)" ++ " AND NOT (b < 2)" = "(a = 1 OR TRUE)" ++ after := parts
        exact ((String.append_right_inj _).1 split).symm
      exact ⟨whole (by decide +kernel), same (by decide +kernel), by decide +kernel⟩

end Setting

end Cql
