import Cql.Proofs.Compile.BoundLiteral
import Cql.Proofs.Compile.LiteralBlindness
import Cql.Proofs.Filter.GeometryText

/-!
# Respelt filters compile alike

A filter may be laid out in another way, and its reserved words and the names of the functions that
it calls may be written in another case. The names of functions and relations are looked up without
regard to case, and all other texts that reach the SQL are as they were. The two translations make
the same operands step by step.
-/

namespace Cql

open Cql.Sql Cql.Grammar

/-! ## Respelt trees -/

namespace Node

/-- The other node has the same rules below it and its tokens in another spelling. -/
inductive Respelt : Rule → Node → Node → Prop where
  | intro {parent : Rule} {node other : Node} (rules : other.rule = node.rule)
      (spelt : ∀ pattern, definition node.rule = .token pattern → node.rule ≠ .endOfInput →
        Leaf.Spelt ⟨parent, node.rule, node.text⟩ other.text)
      (lengths : node.children.length = other.children.length)
      (inner : ∀ child found, (child, found) ∈ node.children.zip other.children →
        Respelt node.rule child found) : Respelt parent node other

variable {parent : Rule} {node other : Node} {nodes others : List Node}

theorem Respelt.children (respelt : node.Respelt parent other) :
    List.Forall₂ (Respelt node.rule) node.children other.children := by
  cases respelt with
  | intro _ _ lengths inner => exact List.forall₂_iff_zip.2 ⟨lengths, fun pair => inner _ _ pair⟩

/-! ### From tokens to nodes -/

/-- What is known of two trees with the same rules whose tokens are respelt. -/
def Matches (parent : Rule) (node other : Node) : Prop :=
  other.outline.bare = node.outline.bare ∧
    List.Forall₂ Leaf.Respelt (node.outline.tokens parent) (other.outline.tokens parent)

theorem matches_children
    (bare : Outline.bareAll (outlineAll others) = Outline.bareAll (outlineAll nodes))
    (tokens : List.Forall₂ Leaf.Respelt (Outline.tokensAll parent (outlineAll nodes))
      (Outline.tokensAll parent (outlineAll others))) :
    List.Forall₂ (Matches parent) nodes others := by
  induction nodes generalizing others with
  | nil =>
      cases others with
      | nil => exact .nil
      | cons other others => cases bare
  | cons node nodes ih =>
      cases others with
      | nil => cases bare
      | cons other others =>
          obtain ⟨first, rest⟩ := List.cons.inj bare
          have kinds := (Outline.kinds_bare parent other.outline).symm.trans
            ((congrArg _ (congrArg _ first)).trans (Outline.kinds_bare parent node.outline))
          have lengths := congrArg List.length kinds
          simp only [List.length_map] at lengths
          have front := List.forall₂_take_append _ _ _ tokens
          have back := List.forall₂_drop_append _ _ _ tokens
          rw [lengths, outlineAll, Outline.tokensAll, List.take_left] at front
          rw [lengths, outlineAll, Outline.tokensAll, List.drop_left] at back
          exact .cons ⟨first, front⟩ (ih rest back)

theorem respelt_of_matches (formed : node.Formed) (formed' : other.Formed)
    (found : Matches parent node other) : node.Respelt parent other := by
  induction formed generalizing parent other with
  | @token rule pattern offset text defined _ =>
      obtain ⟨bare, tokens⟩ := found
      cases formed' with
      | @phrase _ _ _ _ _ defined' =>
          simp only [outline, defined, defined', Outline.bare] at bare
          cases bare
      | @token rule' _ _ text' defined' =>
          simp only [outline, defined, defined', Outline.bare] at bare tokens
          cases bare
          refine .intro rfl (fun _ _ proper => ?_) rfl fun child found pair => ?_
          · simp only [Outline.tokens, if_neg proper] at tokens
            cases tokens with
            | cons first _ => exact first.2
          · cases pair
  | @phrase rule body offset text children defined _ inner ih =>
      obtain ⟨bare, tokens⟩ := found
      cases formed' with
      | @token _ _ _ _ defined' =>
          simp only [outline, defined, defined', Outline.bare] at bare
          cases bare
      | @phrase rule' body' _ _ children' defined' _ inner' =>
          simp only [outline, defined, defined', Outline.bare, Outline.branch.injEq] at bare tokens
          obtain ⟨rfl, bare⟩ := bare
          obtain ⟨lengths, pairs⟩ := List.forall₂_iff_zip.1 (matches_children bare tokens)
          refine .intro rfl (fun pattern other _ => ?_) lengths fun child found pair => ?_
          · cases defined.symm.trans other
          · obtain ⟨among, among'⟩ := List.of_mem_zip pair
            exact ih child among (inner' found among') (pairs pair)

/-! ### What a node asks of its children -/

namespace Respelt

variable (respelt : node.Respelt parent other)
include respelt

theorem rule_eq : other.rule = node.rule := by
  cases respelt with
  | intro rules => exact rules

variable {rule : Rule} {pattern : Pattern}

/-- A token is respelt. -/
theorem spelt (kind : node.rule = rule) (defined : definition rule = .token pattern)
    (proper : rule ≠ .endOfInput) : Leaf.Spelt ⟨parent, rule, node.text⟩ other.text := by
  subst kind
  cases respelt with
  | intro _ spelt => exact spelt pattern defined proper

/-- A token keeps its text if it is neither a reserved word nor the name of a function. -/
theorem text_eq (kind : node.rule = rule) (defined : definition rule = .token pattern)
    (proper : rule ≠ .endOfInput) (plain : isReserved rule = false)
    (named : rule = .identifier → parent ≠ .function) : other.text = node.text := by
  rcases respelt.spelt kind defined proper with same | ⟨caseless, _⟩
  · exact same
  · simp only [Leaf.isCaseless, plain, Bool.false_or, Bool.and_eq_true, beq_iff_eq] at caseless
    exact absurd caseless.1 (named caseless.2)

theorem child?_rel (rule : Rule) :
    Option.Rel (fun child found => child.rule = rule ∧ child.Respelt node.rule found)
      (node.child? rule) (other.child? rule) := by
  have pairs := respelt.children
  rw [Node.child?, Node.child?]
  generalize node.children = children at pairs ⊢
  generalize other.children = founds at pairs ⊢
  induction pairs with
  | nil => exact .none
  | @cons child found children founds pair _ ih =>
      simp only [List.find?_cons, pair.rule_eq]
      cases here : child.rule == rule with
      | true => exact .some ⟨beq_iff_eq.1 here, pair⟩
      | false => exact ih

/-- The names of a kind that the nodes give agree up to case. -/
theorem textOf (rule : Rule) (defined : definition rule = .token pattern)
    (proper : rule ≠ .endOfInput) :
    lowered (node.textOf rule).toList = lowered (other.textOf rule).toList := by
  have both := respelt.child?_rel rule
  rw [Node.textOf, Node.textOf]
  generalize node.child? rule = child at both ⊢
  generalize other.child? rule = found at both ⊢
  cases both with
  | none => rfl
  | some pair =>
      exact (pair.2.spelt pair.1 defined proper).lowered

theorem shape : SameShape node other where
  rules := by
    have pairs := respelt.children
    generalize node.children = children at pairs ⊢
    generalize other.children = founds at pairs ⊢
    induction pairs with
    | nil => rfl
    | cons pair _ ih => rw [List.map_cons, List.map_cons, pair.rule_eq, ih]
  operator := by
    have both := respelt.child?_rel .comparisonOperator
    generalize node.child? .comparisonOperator = child at both ⊢
    generalize other.child? .comparisonOperator = found at both ⊢
    cases both with
    | none => rfl
    | @some child found pair =>
        obtain ⟨named, inner⟩ := pair
        have same := inner.text_eq named rfl (by decide) rfl fun other => by cases other
        rw [Option.map_some, Option.map_some, same]

theorem argumentCount : node.argumentCount = other.argumentCount := by
  rw [Node.argumentCount, Node.argumentCount]
  have both := respelt.child?_rel .argumentList
  generalize node.child? .argumentList = child at both ⊢
  generalize other.child? .argumentList = found at both ⊢
  cases both with
  | none => rfl
  | some pair => exact pair.2.children.length_eq

end Respelt

end Node

/-! ## Names in another case -/

theorem sameWord_of_lowered {text text' : String}
    (same : lowered text.toList = lowered text'.toList) (word : String) :
    Text.sameWord text word = Text.sameWord text' word := by
  rw [Text.sameWord, show text.toList.map Char.toLower = _ from same]
  rfl

theorem lower_of_lowered {text text' : String}
    (same : lowered text.toList = lowered text'.toList) : Text.lower text = Text.lower text' :=
  congrArg String.ofList same

namespace Sql.Identifier

theorem lowered_singleQuotes {cs ds : List Char} (same : lowered cs = lowered ds) :
    lowered (singleQuotes cs) = lowered (singleQuotes ds) := by
  induction cs using singleQuotes.induct generalizing ds with
  | case1 cs ih =>
      obtain ⟨d, rest, rfl, letter, others⟩ := lowered_cons same
      obtain ⟨e, rest, rfl, letter', others⟩ := lowered_cons others
      rw [(eq_mark_iff letter rfl).1 rfl, (eq_mark_iff letter' rfl).1 rfl, singleQuotes,
        singleQuotes]
      exact congrArg (List.cons _) (ih others)
  | case2 c cs single ih =>
      obtain ⟨d, rest, rfl, letter, others⟩ := lowered_cons same
      have single' : ∀ rest', d = '"' → rest = '"' :: rest' → False := by
        rintro rest' mark rfl
        obtain ⟨e, more, rfl, letter', _⟩ := lowered_cons others.symm
        exact single more ((eq_mark_iff letter rfl).2 mark)
          (by rw [(eq_mark_iff letter'.symm rfl).2 rfl])
      rw [singleQuotes.eq_2 c cs single, singleQuotes.eq_2 d rest single']
      exact congrArg₂ List.cons letter (ih others)
  | case3 => rw [List.map_eq_nil_iff.1 same.symm]

theorem getLast?_mark_iff {cs ds : List Char} (same : lowered cs = lowered ds) {mark : Char}
    (plain : mark.isAlpha = false) : cs.getLast? = some mark ↔ ds.getLast? = some mark := by
  have last : cs.getLast?.map Char.toLower = ds.getLast?.map Char.toLower := by
    rw [← List.getLast?_map, ← List.getLast?_map]
    exact congrArg _ same
  cases one : cs.getLast? with
  | none =>
      rw [one, Option.map_none, eq_comm, Option.map_eq_none_iff] at last
      rw [last]
  | some c =>
      rw [one, Option.map_some, eq_comm, Option.map_eq_some_iff] at last
      obtain ⟨d, two, letter⟩ := last
      rw [two, Option.some_inj, Option.some_inj, eq_mark_iff letter plain]

theorem unquote_eq (text : String) : unquote text =
    if text.toList.head? = some '"' ∧ text.toList.tail.getLast? = some '"'
    then String.ofList (singleQuotes text.toList.tail.dropLast) else text := by
  rw [unquote]
  split
  · next cs whole => simp only [whole, List.head?_cons, List.tail_cons, true_and, beq_iff_eq]
  · next other =>
      rw [if_neg]
      rintro ⟨first, _⟩
      obtain ⟨cs, whole⟩ := List.head?_eq_some_iff.1 first
      exact other cs whole

theorem lowered_unquote {text text' : String} (same : lowered text.toList = lowered text'.toList) :
    lowered (unquote text).toList = lowered (unquote text').toList := by
  have head : text.toList.head? = some '"' ↔ text'.toList.head? = some '"' := by
    cases first : text.toList with
    | nil =>
        rw [first] at same
        rw [List.map_eq_nil_iff.1 same.symm]
    | cons c cs =>
        rw [first] at same
        obtain ⟨d, rest, whole, letter, _⟩ := lowered_cons same
        rw [whole, List.head?_cons, List.head?_cons, Option.some_inj, Option.some_inj,
          eq_mark_iff letter rfl]
  have tail : lowered text.toList.tail = lowered text'.toList.tail := by
    simp only [lowered, List.map_tail]
    exact congrArg List.tail same
  have most : lowered text.toList.tail.dropLast = lowered text'.toList.tail.dropLast := by
    simp only [lowered, List.map_dropLast]
    exact congrArg List.dropLast tail
  rw [unquote_eq, unquote_eq]
  simp only [head, @getLast?_mark_iff _ _ tail '"' rfl]
  split
  · rw [String.toList_ofList, String.toList_ofList, lowered_singleQuotes most]
  · exact same

end Sql.Identifier

namespace Setting

variable {setting : Setting} {parent : Rule} {node other : Node}

/-- Respelt nodes act alike but for the values that they bind, unless the first one is refused. -/
theorem action_respelt (respelt : node.Respelt parent other)
    (property : node.rule = .propertyName → other.text = node.text) :
    (setting.action false node).blind = (setting.action false other).blind ∨
      ∃ reason, setting.action false node = .refuse reason := by
  have rules := respelt.rule_eq
  cases kind : node.rule with
  | propertyName =>
      left
      simp only [action, kind, rules.trans kind, Setting.property, property kind]
  | numericLiteral | westBoundLon | southBoundLat | eastBoundLon | northBoundLat =>
      left
      have same := respelt.text_eq kind rfl (by decide) rfl fun other => by cases other
      simp only [action, kind, rules.trans kind, same]
  | booleanLiteral =>
      left
      have same := (respelt.spelt kind rfl (by decide)).lowered
      simp only [action, kind, rules.trans kind, boolean, sameWord_of_lowered same "true"]
  | function =>
      have name : Text.lower node.calledName = Text.lower other.calledName :=
        lower_of_lowered (Identifier.lowered_unquote (respelt.textOf .identifier rfl (by decide)))
      have sql : setting.dialect.sqlFunction? node.calledName
          = setting.dialect.sqlFunction? other.calledName := by
        simp only [Dialect.sqlFunction?, function?, name]
      have arity : arityOf? node.calledName = arityOf? other.calledName := by
        simp only [arityOf?, function?, name]
      simp only [action, kind, rules.trans kind, functionCall, sql, arity, respelt.argumentCount]
      cases setting.dialect.sqlFunction? other.calledName with
      | none => exact .inr ⟨_, rfl⟩
      | some function =>
          cases arityOf? other.calledName with
          | none => exact .inl rfl
          | some arity =>
              dsimp only
              split
              · exact .inl rfl
              · exact .inr ⟨_, rfl⟩
  | spatialPredicate =>
      have name : SpatialRelation.ofKeyword? (node.textOf .spatialFunction)
          = SpatialRelation.ofKeyword? (other.textOf .spatialFunction) := by
        simp only [SpatialRelation.ofKeyword?,
          lower_of_lowered (respelt.textOf .spatialFunction rfl (by decide))]
      simp only [action, kind, rules.trans kind, spatial, name]
      cases SpatialRelation.ofKeyword? (other.textOf .spatialFunction) with
      | none => exact .inr ⟨_, rfl⟩
      | some relation => exact .inl rfl
  | temporalPredicate =>
      have name : TemporalRelation.ofKeyword? (node.textOf .temporalFunction)
          = TemporalRelation.ofKeyword? (other.textOf .temporalFunction) := by
        simp only [TemporalRelation.ofKeyword?,
          lower_of_lowered (respelt.textOf .temporalFunction rfl (by decide))]
      simp only [action, kind, rules.trans kind, temporal, name]
      cases TemporalRelation.ofKeyword? (other.textOf .temporalFunction) with
      | none => exact .inr ⟨_, rfl⟩
      | some relation => exact .inl rfl
  | arrayPredicate =>
      have name : ArrayRelation.ofKeyword? (node.textOf .arrayFunction)
          = ArrayRelation.ofKeyword? (other.textOf .arrayFunction) := by
        simp only [ArrayRelation.ofKeyword?,
          lower_of_lowered (respelt.textOf .arrayFunction rfl (by decide))]
      simp only [action, kind, rules.trans kind, arrays, name]
      cases ArrayRelation.ofKeyword? (other.textOf .arrayFunction) with
      | none => exact .inr ⟨_, rfl⟩
      | some relation => exact .inl rfl
  | _ =>
      exact .inl (action_blind_of_shape rules.symm respelt.shape (by rw [kind]; rfl))

end Setting

/-! ## The text of a property -/

namespace Node

/-- A property keeps its text. -/
theorem Respelt.property {parent : Rule} {node other : Node} (respelt : node.Respelt parent other)
    (placed : node.Placed) (placed' : other.Placed) (named : node.rule = .propertyName) :
    other.text = node.text := by
  obtain ⟨child, whole, identifier, text⟩ := placed.identifier_of_propertyName named
  obtain ⟨found, whole', _, text'⟩ :=
    placed'.identifier_of_propertyName (respelt.rule_eq.trans named)
  have pairs := respelt.children
  rw [whole, whole', named] at pairs
  cases pairs with
  | cons pair _ =>
      rw [← text, ← text']
      exact pair.text_eq identifier rfl (by decide) rfl fun _ other => by cases other

end Node

/-! ## Two translations side by side -/

namespace Setting

variable {setting : Setting} {parent : Rule} {node other : Node} {nodes others : List Node}
  {one two after : Bindings} {operands : List Operand}

/-- Whatever the first node is translated to, the second one is translated to it with the same names
of parameters. -/
def TranslatesAs (setting : Setting) (node other : Node) : Prop :=
  ∀ {one two after : Bindings} {operands : List Operand}, one.Alike two →
    setting.translate node one = .ok (operands, after) →
      ∃ after', setting.translate other two = .ok (operands, after') ∧ after.Alike after'

theorem assemble_respelt {action action' : Action} {parts : List Operand}
    (same : action.blind = action'.blind ∨ ∃ reason, action = .refuse reason)
    (alike : one.Alike two) (done : setting.assemble action parts one = .ok (operands, after)) :
    ∃ after', setting.assemble action' parts two = .ok (operands, after') ∧ after.Alike after' := by
  rcases same with same | ⟨reason, rfl⟩
  · have both := @assemble_indistinct setting _ _ alike _ _ same parts
    rw [done] at both
    generalize setting.assemble action' parts two = outcome at both ⊢
    cases both with
    | ok _ alike => exact ⟨_, rfl, alike⟩
  · cases done

theorem translateAll_respelt (each : List.Forall₂ setting.TranslatesAs nodes others)
    (alike : one.Alike two) (done : setting.translateAll nodes one = .ok (operands, after)) :
    ∃ after', setting.translateAll others two = .ok (operands, after') ∧ after.Alike after' := by
  induction each generalizing one two operands with
  | nil =>
      cases done
      exact ⟨two, rfl, alike⟩
  | cons first _ ih =>
      obtain ⟨front, mid, back, here, later, rfl⟩ := translateAll_cons_ok.1 done
      obtain ⟨mid', here', alike⟩ := first alike here
      obtain ⟨after', later', alike⟩ := ih alike later
      exact ⟨after', translateAll_cons_ok.2 ⟨front, mid', back, here', later', rfl⟩, alike⟩

theorem translate_respelt (respelt : node.Respelt parent other) (placed : node.Placed)
    (placed' : other.Placed) : setting.TranslatesAs node other := by
  induction respelt with
  | @intro parent node other rules spelt lengths inner ih =>
      intro one two after operands alike done
      have respelt : node.Respelt parent other := .intro rules spelt lengths inner
      have acts := setting.action_respelt respelt (respelt.property placed placed')
      by_cases collection : node.rule = .geometryCollection
      · rw [setting.translate_collection one collection] at done
        rw [setting.translate_collection two (rules.trans collection)]
        exact assemble_respelt acts alike done
      · obtain ⟨parts, mid, below, put⟩ := (translate_ok collection).1 done
        have each : List.Forall₂ setting.TranslatesAs node.children other.children := by
          refine List.forall₂_iff_zip.2 ⟨lengths, fun {child found} pair => ?_⟩
          obtain ⟨among, among'⟩ := List.of_mem_zip pair
          exact ih child found pair (placed.children child among) (placed'.children found among')
        obtain ⟨mid', below', alike⟩ := translateAll_respelt each alike below
        obtain ⟨after', put', alike⟩ := assemble_respelt acts alike put
        exact ⟨after', (translate_ok (rules ▸ collection)).2 ⟨parts, mid', below', put'⟩, alike⟩

/-! ## Literals side by side -/

structure SameLiteral (setting : Setting) (literal other : Node) : Prop where
  rules : other.rule = literal.rule
  geometry : literal.rule.isGeometry = true → setting.boundValue other = other.text
  value : literal.rule.isGeometry = false → setting.boundValue other = setting.boundValue literal

theorem sameLiteral_of_binds (respelt : node.Respelt parent other)
    (binds : setting.binds ⟨node, false⟩ = true) : setting.SameLiteral node other := by
  have rules := respelt.rule_eq
  have scalar (same : setting.boundValue other = setting.boundValue node)
      (plain : node.rule.isGeometry = false) : setting.SameLiteral node other :=
    ⟨rules, fun geometry => absurd (plain.symm.trans geometry) (by decide), fun _ => same⟩
  cases kind : node.rule with
  | geometryLiteral | geometryCollection =>
      refine ⟨rules, fun _ => ?_, fun plain => ?_⟩
      · simp only [boundValue, rules.trans kind]
      · rw [kind] at plain
        cases plain
  | booleanLiteral =>
      have same := (respelt.spelt kind rfl (by decide)).lowered
      refine scalar ?_ (by rw [kind]; rfl)
      simp only [boundValue, kind, rules.trans kind, sameWord_of_lowered same "true"]
  | characterLiteral | dateString | timestampString | numericLiteral | westBoundLon | southBoundLat
  | eastBoundLon | northBoundLat =>
      have same := respelt.text_eq kind rfl (by decide) rfl fun other => by cases other
      refine scalar ?_ (by rw [kind]; rfl)
      simp only [boundValue, kind, rules.trans kind, same]
  | _ =>
      simp only [Setting.binds, kind] at binds
      cases binds

theorem literals_respelt (respelt : node.Respelt parent other) (formed : node.Formed)
    (formed' : other.Formed) :
    List.Forall₂ setting.SameLiteral (setting.boundLiterals node)
      (setting.boundLiterals other) := by
  induction respelt with
  | @intro parent node other rules spelt lengths inner ih =>
      have respelt : node.Respelt parent other := .intro rules spelt lengths inner
      have binds : setting.binds ⟨other, false⟩ = setting.binds ⟨node, false⟩ := by
        simp only [Setting.binds, rules]
      rw [boundLiterals_eq formed, boundLiterals_eq formed', rules, binds]
      refine List.rel_append ?_ ?_
      · split
        · exact .nil
        · have each := List.forall₂_iff_zip.2 ⟨lengths, fun {child found} pair =>
            have among := List.of_mem_zip pair
            ih child found pair (formed.children child among.1) (formed'.children found among.2)⟩
          exact List.rel_flatMap each fun _ _ same => same
      · split
        · next bound => exact .cons (sameLiteral_of_binds respelt bound) .nil
        · exact .nil

/-! ## Whole filters -/

def literalsIn (setting : Setting) (filter : String) : List Node :=
  (Filter.parse filter).toOption.elim [] setting.boundLiterals

theorem literalsIn_of_parse {filter : String} {tree : Node}
    (found : Filter.parse filter = .ok tree) :
    setting.literalsIn filter = setting.boundLiterals tree := by
  rw [literalsIn, found]
  rfl

theorem literalsIn_of_isBlank {filter : String} (blank : Text.isBlank filter = true) :
    setting.literalsIn filter = [] := by
  cases found : Filter.parse filter with
  | error errors =>
      rw [literalsIn, found]
      rfl
  | ok tree => cases blank.symm.trans (Filter.isBlank_of_parse found)

/-- The parameters have the same names in the same order, and those of one name are bound by
literals that form one of the given pairs. -/
def Rebound (setting : Setting) (pairs : List (Node × Node)) (params params' : Parameters) : Prop :=
  ∃ shared : List (String × Node × Node),
    params = shared.map (fun entry => (entry.1, setting.boundValue entry.2.1)) ∧
      params' = shared.map (fun entry => (entry.1, setting.boundValue entry.2.2)) ∧
      (shared.map Prod.snd).Sublist pairs

theorem rebound_of_values {literals literals' : List Node} {one two : Bindings}
    (names : one.names = two.names) (lengths : literals.length = literals'.length)
    (values : one.values = literals.map setting.boundValue)
    (values' : two.values = literals'.map setting.boundValue) (sigil : Char) (sql : String) :
    setting.Rebound (literals.zip literals') (Compilation.usedParams sigil sql one.params)
      (Compilation.usedParams sigil sql two.params) := by
  have enough : one.names.length = (literals.zip literals').length := by
    rw [names_length, values, List.length_map, List.length_zip, lengths, Nat.min_self]
  have params : one.params = (one.names.zip (literals.zip literals')).map
      fun entry => (entry.1, setting.boundValue entry.2.1) := by
    have split : one.params = one.names.zip one.values := List.zip_of_prod rfl rfl
    rw [split, values]
    nth_rewrite 1 [← List.map_fst_zip (le_of_eq lengths)]
    rw [List.map_map, List.zip_map_right]
    rfl
  have params' : two.params = (one.names.zip (literals.zip literals')).map
      fun entry => (entry.1, setting.boundValue entry.2.2) := by
    have split : two.params = two.names.zip two.values := List.zip_of_prod rfl rfl
    rw [split, values', ← names]
    nth_rewrite 1 [← List.map_snd_zip (le_of_eq lengths.symm)]
    rw [List.map_map, List.zip_map_right]
    rfl
  refine ⟨(one.names.zip (literals.zip literals')).filter fun entry =>
    occursIn (sigil :: entry.1.toList) sql.toList, ?_, ?_, ?_⟩
  · rw [params, Compilation.usedParams, List.filter_map]
    rfl
  · rw [params', Compilation.usedParams, List.filter_map]
    rfl
  · have sublist := (List.filter_sublist (l := one.names.zip (literals.zip literals'))
      (p := fun entry => occursIn (sigil :: entry.1.toList) sql.toList)).map Prod.snd
    rwa [List.map_snd_zip (le_of_eq enough.symm)] at sublist

end Setting

/-- The second text is the first in another spelling. Nothing but blanks may be changed in a blank
filter. -/
def Filter.Respells (filter other : String) : Prop :=
  (Text.isBlank filter = true ∧ Text.isBlank other = true) ∨
    ∃ tree, parse filter = .ok tree ∧ Respelt tree.tokens filter.toList other.toList

namespace Setting

theorem respells_self {setting : Setting} {filter : String} {result : SqlFilter}
    (compiled : setting.compile filter = .ok result) : Filter.Respells filter filter := by
  rw [compile] at compiled
  split at compiled
  · next blank => exact .inl ⟨blank, blank⟩
  · split at compiled
    · cases compiled
    · next tree found => exact .inr ⟨tree, found, Filter.respelt_self found⟩

/-- A filter that compiles does so in any other spelling: with other blanks between its tokens and
at its ends, and with its reserved words and the names of the functions that it calls in another
case. The SQL is the same, and so are the parameters, but for the geometries, which are bound by the
texts that they have in the other spelling. -/
theorem compile_respelt (setting : Setting) {filter : String} {result : SqlFilter}
    (compiled : setting.compile filter = .ok result) :
    Filter.Respells filter filter ∧ ∀ other, Filter.Respells filter other →
      ∃ result', setting.compile other = .ok result' ∧ result'.sql = result.sql ∧
        setting.Rebound ((setting.literalsIn filter).zip (setting.literalsIn other)) result.params
          result'.params ∧
        List.Forall₂ setting.SameLiteral (setting.literalsIn filter) (setting.literalsIn other) ∧
        Node.Row 0 other.toList (setting.literalsIn other) := by
  refine ⟨respells_self compiled, fun other respells => ?_⟩
  rcases respells with ⟨blank, blank'⟩ | ⟨tree, found, respelt⟩
  · rw [show setting.compile filter = .ok {} from if_pos blank] at compiled
    cases compiled
    rw [literalsIn_of_isBlank blank, literalsIn_of_isBlank blank']
    exact ⟨{}, if_pos blank', rfl, ⟨[], rfl, rfl, .slnil⟩, .nil, .nil _ _⟩
  · obtain ⟨tree', found', same⟩ := Filter.exists_parse_of_respelt found respelt
    have formed := Filter.formed_of_parse found
    have formed' := Filter.formed_of_parse found'
    have respelt : tree.Respelt .cqlFilter tree' := Node.respelt_of_matches formed formed' same
    obtain ⟨sql, bindings, done, rfl⟩ := translate_of_compile found compiled
    obtain ⟨bindings', done', alike⟩ := translate_respelt respelt
      (Filter.placed_of_parse found).2 (Filter.placed_of_parse found').2 ⟨rfl, rfl⟩ done
    obtain ⟨_, shape, compiled'⟩ := compile_ok found' done'
    cases shape
    have literals := @literals_respelt setting _ _ _ respelt formed formed'
    have rebound := rebound_of_values alike.names literals.length_eq
      (values_of_translate formed done) (values_of_translate formed' done')
    rw [literalsIn_of_parse found, literalsIn_of_parse found']
    exact ⟨_, compiled', rfl, rebound _ _, literals, literals_row_of_parse found'⟩

/-- A keyword that follows a number at once may be parted from it, and a geometry that is spelt in
another way is bound by its new text. -/
theorem compile_respelt_caseless :
    let setting : Setting := { dialect := .geoPackage }
    let filter := "Abs(x)=5AND S_Within(g,POINT(1 2))"
    let other := "\tabs( x )=5 and s_within(g,point(1\n2) )"
    Filter.Respells filter other ∧
      ∃ result result', setting.compile filter = .ok result ∧ setting.compile other = .ok result' ∧
        result'.sql = result.sql ∧
        result.params = [("cql_bcde", "5"), ("cql_fghi", "POINT(1 2)")] ∧
        result'.params = [("cql_bcde", "5"), ("cql_fghi", "point(1\n2)")] := by
  intro setting filter other
  have respells : Filter.Respells filter other := by
    have read : (Filter.parse filter).toOption.map Node.tokens =
        some [⟨.function, .identifier, "Abs"⟩, ⟨.propertyName, .identifier, "x"⟩,
          ⟨.binaryComparisonPredicate, .comparisonOperator, "="⟩,
          ⟨.scalarExpression, .numericLiteral, "5"⟩, ⟨.booleanTerm, .keyword .and, "AND"⟩,
          ⟨.spatialPredicate, .spatialFunction, "S_Within"⟩, ⟨.propertyName, .identifier, "g"⟩,
          ⟨.point, .keyword .point, "POINT"⟩, ⟨.coordinate, .xCoord, "1"⟩,
          ⟨.coordinate, .yCoord, "2"⟩] := by
      decide +kernel
    cases found : Filter.parse filter with
    | error errors => rw [found] at read; cases read
    | ok tree =>
        rw [found] at read
        refine .inr ⟨tree, found, ?_⟩
        rw [show tree.tokens = _ from Option.some.inj read,
          show filter.toList = [] ++ ("Abs".toList ++ '(' :: ([] ++ ("x".toList ++ ([] ++ ')' ::
            ("=".toList ++ ("5".toList ++ ([] ++ ("AND".toList ++ ([' '] ++ ("S_Within".toList ++
            '(' :: ("g".toList ++ ',' :: ("POINT".toList ++ '(' :: ("1".toList ++ ([' '] ++
            ("2".toList ++ ')' :: ([] ++ [')'])))))))))))))))) by decide +kernel,
          show other.toList = ['\t'] ++ ("abs".toList ++ '(' :: ([' '] ++ ("x".toList ++ ([' '] ++
            ')' :: ("=".toList ++ ("5".toList ++ ([' '] ++ ("and".toList ++ ([' '] ++
            ("s_within".toList ++ '(' :: ("g".toList ++ ',' :: ("point".toList ++ '(' ::
            ("1".toList ++ (['\n'] ++ ("2".toList ++ ')' :: ([' '] ++ [')'])))))))))))))))) by
            decide +kernel]
        have caseless {token : Leaf} {text : String} (free : token.isCaseless = true)
            (same : lowered text.toList = lowered token.text.toList) : token.Spelt text :=
          .inr ⟨free, same⟩
        have blanks {gap gap' cs cs' : List Char} {tokens : List Leaf}
            (blank : gap.all isBlank = true) (blank' : gap'.all isBlank = true)
            (kept : gap' = [] → gap = []) (more : Filter.Respelt tokens cs cs') :
            Filter.Respelt tokens (gap ++ cs) (gap' ++ cs') :=
          .blanks (List.all_eq_true.1 blank) (List.all_eq_true.1 blank') kept more
        exact blanks rfl rfl (by decide) <|
          .token (caseless rfl (by decide +kernel)) <| .mark (by decide) <|
          blanks rfl rfl (by decide) <| .token (.inl rfl) <|
          blanks rfl rfl (by decide) <| .mark (by decide) <|
          .token (.inl rfl) <| .token (.inl rfl) <|
          blanks rfl rfl (by decide) <|
          .token (caseless rfl (by decide +kernel)) <|
          blanks rfl rfl (by decide) <|
          .token (caseless rfl (by decide +kernel)) <| .mark (by decide) <|
          .token (.inl rfl) <| .mark (by decide) <|
          .token (caseless rfl (by decide +kernel)) <| .mark (by decide) <|
          .token (.inl rfl) <| blanks rfl rfl (by decide) <|
          .token (.inl rfl) <| .mark (by decide) <|
          blanks rfl rfl (by decide) <| .mark (by decide) .nil
  have params : (setting.compile filter).toOption.map SqlFilter.params =
      some [("cql_bcde", "5"), ("cql_fghi", "POINT(1 2)")] := by
    decide +kernel
  have params' : (setting.compile other).toOption.map SqlFilter.params =
      some [("cql_bcde", "5"), ("cql_fghi", "point(1\n2)")] := by
    decide +kernel
  cases compiled : setting.compile filter with
  | error reason =>
      rw [compiled] at params
      cases params
  | ok result =>
      obtain ⟨result', compiled', same, _⟩ := (compile_respelt setting compiled).2 other respells
      rw [compiled] at params
      rw [compiled'] at params'
      exact ⟨respells, result, result', rfl, compiled', same, Option.some.inj params,
        Option.some.inj params'⟩

end Setting

end Cql
