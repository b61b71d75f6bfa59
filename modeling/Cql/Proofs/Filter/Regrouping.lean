import Cql.Proofs.Filter.GeometryText

/-!
# More brackets around a condition

A condition in brackets may be put into brackets once more, and so may a whole filter. The lexemes
of the filter stay what they are, since a bracket keeps them apart as well as anything else does.
Hence the filter is read again, and in its tree the condition stands one group deeper.
-/

namespace Cql

open Cql.Text

namespace Grammar

/-! ## Lexemes in front of brackets -/

/-- A lexeme stays one when more text is added, if that begins with a punctuation mark. -/
theorem IsLexeme.append_mark {look : Look} {text rest : List Char} {mark : Char}
    (lexeme : IsLexeme look text rest) (marks : mark ∈ ['(', ')', ',']) (more : List Char) :
    IsLexeme look text (rest ++ mark :: more) := by
  have next : ∀ c ∈ (mark :: more).head?, c ∈ ['(', ')', ','] := fun c first => by
    rw [List.head?_cons, Option.mem_some_iff] at first
    exact first ▸ marks
  have head_ne {c : Char} (other : c ∉ ['(', ')', ',']) : (mark :: more).head? ≠ some c :=
    fun first => other (next c first)
  rw [IsLexeme, ← List.append_assoc]
  cases look with
  | blank => cases lexeme
  | opening | closing | comma =>
      obtain rfl := Pattern.takes_of_scan _ lexeme
      rfl
  | apostrophe =>
      exact Pattern.scan_quoted (show "'".toList = ['\''] from rfl)
        (.many_quotedChar rfl (head_ne (by decide))) lexeme
  | quotation =>
      have steady : (Pattern.many1 (Pattern.quotedChar "\"")).Steady (mark :: more) :=
        Pattern.Steady.seq (.quotedChar rfl (head_ne (by decide)))
          (.many_quotedChar rfl (head_ne (by decide)))
      exact Pattern.scan_quoted (show "\"".toList = ['"'] from rfl) steady lexeme
  | comparison | numeric | letter =>
      rw [Pattern.scan_append rfl next]
      exact congrArg (Option.map _) lexeme

/-- What is a lexeme somewhere in front of the first text is one in front of the second. -/
def Admits (left left' : List Char) : Prop :=
  ∀ (look : Look) (text gap : List Char),
    IsLexeme look text (gap ++ left) → IsLexeme look text (gap ++ left')

namespace Admits

variable {left left' : List Char}

theorem refl (left : List Char) : Admits left left :=
  fun _ _ _ => id

theorem prepend (admits : Admits left left') (front : List Char) :
    Admits (front ++ left) (front ++ left') := by
  intro look text gap lexeme
  rw [← List.append_assoc] at lexeme ⊢
  exact admits look text _ lexeme

/-- A mark may take the place of anything. -/
theorem mark {mark : Char} (marks : mark ∈ ['(', ')', ',']) (left left' : List Char) :
    Admits left (mark :: left') :=
  fun _ _ _ lexeme => lexeme.cut.append_mark marks left'

end Admits

/-! ## Conditions elsewhere -/

def Phrase.isInner : Phrase → Bool
  | .start => false
  | .ref rule => rule != .cqlFilter && rule != .endOfInput
  | .seq first second | .join first second | .alt first second => first.isInner && second.isInner
  | .opt inner | .again inner => inner.isInner
  | .symbol _ | .text _ => true

theorem isInner_definition (rule : Rule) :
    (match definition rule with
      | .phrase body => rule == .cqlFilter || body.isInner
      | _ => true) = true := by
  cases rule <;> rfl

theorem Phrase.isInner_body {rule : Rule} {body : Phrase} (defined : definition rule = .phrase body)
    (inner : (Phrase.ref rule).isInner = true) : body.isInner = true := by
  have known := isInner_definition rule
  simp only [defined, Bool.or_eq_true, beq_iff_eq] at known
  refine known.resolve_left ?_
  rintro rfl
  cases inner

variable {phrase : Phrase} {offset : Nat} {text left left' : List Char} {nodes : List Node}

/-- A part of a filter may stand at another place, in front of another text. -/
theorem Lexed.move (lexed : Lexed phrase offset text nodes left) (inner : phrase.isInner = true)
    (admits : Admits left left') (offset' : Nat) :
    ∃ nodes', Lexed phrase offset' text nodes' left' ∧
      Node.plainAll nodes' = Node.plainAll nodes := by
  induction lexed generalizing left' offset' with
  | start | ending _ => cases inner
  | symbol marks => exact ⟨[], .symbol marks, rfl⟩
  | token reads among lexeme =>
      exact ⟨_, .token reads among (admits _ _ [] lexeme), by simp only [Node.plainAll, Node.plain]⟩
  | phrase defined _ ih =>
      obtain ⟨nodes', moved, same⟩ := ih (Phrase.isInner_body defined inner) admits offset'
      exact ⟨_, .phrase defined moved, by simp only [Node.plainAll, Node.plain, same]⟩
  | seq _ blank _ ihOne ihTwo =>
      obtain ⟨innerOne, innerTwo⟩ := Bool.and_eq_true_iff.1 inner
      obtain ⟨nodes, one, same⟩ := ihOne innerOne ((admits.prepend _).prepend _) offset'
      obtain ⟨nodes', two, same'⟩ := ihTwo innerTwo admits _
      exact ⟨nodes ++ nodes', .seq one blank two, by
        rw [Node.plainAll_append, Node.plainAll_append, same, same']⟩
  | join _ _ ihOne ihTwo =>
      obtain ⟨innerOne, innerTwo⟩ := Bool.and_eq_true_iff.1 inner
      obtain ⟨nodes, one, same⟩ := ihOne innerOne (admits.prepend _) offset'
      obtain ⟨nodes', two, same'⟩ := ihTwo innerTwo admits _
      exact ⟨nodes ++ nodes', .join one two, by
        rw [Node.plainAll_append, Node.plainAll_append, same, same']⟩
  | altFirst _ ih =>
      obtain ⟨nodes, one, same⟩ := ih (Bool.and_eq_true_iff.1 inner).1 admits offset'
      exact ⟨nodes, .altFirst one, same⟩
  | altSecond _ ih =>
      obtain ⟨nodes, two, same⟩ := ih (Bool.and_eq_true_iff.1 inner).2 admits offset'
      exact ⟨nodes, .altSecond two, same⟩
  | optNone => exact ⟨[], .optNone, rfl⟩
  | optSome _ ih =>
      obtain ⟨nodes, one, same⟩ := ih inner admits offset'
      exact ⟨nodes, .optSome one, same⟩
  | againNone => exact ⟨[], .againNone, rfl⟩
  | againMore blank _ _ ihOne ihMore =>
      obtain ⟨nodes, one, same⟩ := ihOne inner (admits.prepend _) _
      obtain ⟨nodes', more, same'⟩ := ihMore inner admits _
      exact ⟨nodes ++ nodes', .againMore blank one more, by
        rw [Node.plainAll_append, Node.plainAll_append, same, same']⟩

end Grammar

/-! ## Trees with one more group -/

/-- Whether conditions, and whole filters, are built with the rule. -/
def Rule.isConnection (rule : Rule) : Bool :=
  [.cqlFilter, .booleanExpression, .booleanTerm, .booleanFactor, .booleanPrimary].contains rule

namespace Node

def inBrackets (condition : Node) : Node :=
  ⟨.booleanExpression, 0, "", [⟨.booleanTerm, 0, "", [⟨.booleanFactor, 0, "",
    [⟨.booleanPrimary, 0, "", [condition]⟩]⟩]⟩]⟩

/-- In the second tree one condition stands in brackets, where the first has it without them: that
of the whole filter, or one that is in brackets already. -/
inductive Regrouped : Node → Node → Prop where
  | filter {condition : Node} (formed : condition.Formed)
      (kind : condition.rule = .booleanExpression) :
      Regrouped ⟨.cqlFilter, 0, "", [condition.plain, ⟨.endOfInput, 0, "", []⟩]⟩
        ⟨.cqlFilter, 0, "", [condition.plain.inBrackets, ⟨.endOfInput, 0, "", []⟩]⟩
  | group {condition : Node} (formed : condition.Formed)
      (kind : condition.rule = .booleanExpression) :
      Regrouped ⟨.booleanPrimary, 0, "", [condition.plain]⟩
        ⟨.booleanPrimary, 0, "", [condition.plain.inBrackets]⟩
  | inside {rule : Rule} {front back : List Node} {node other : Node}
      (outer : rule.isConnection = true) (deeper : Regrouped node other) :
      Regrouped ⟨rule, 0, "", front ++ node :: back⟩ ⟨rule, 0, "", front ++ other :: back⟩

def RegroupedAll (nodes others : List Node) : Prop :=
  ∃ front node other back, nodes = front ++ node :: back ∧ others = front ++ other :: back ∧
    Regrouped node other

namespace Regrouped

variable {node other : Node} {nodes others : List Node}

theorem isConnection (regrouped : Regrouped node other) : node.rule.isConnection = true := by
  cases regrouped with
  | filter _ _ | group _ _ => rfl
  | inside outer _ => exact outer

theorem rule_eq (regrouped : Regrouped node other) : other.rule = node.rule := by
  cases regrouped <;> rfl

theorem singleton (regrouped : Regrouped node other) : RegroupedAll [node] [other] :=
  ⟨[], node, other, [], rfl, rfl, regrouped⟩

end Regrouped

namespace RegroupedAll

variable {nodes others : List Node}

theorem prepend (regrouped : RegroupedAll nodes others) (front : List Node) :
    RegroupedAll (front ++ nodes) (front ++ others) := by
  obtain ⟨front', node, other, back, rfl, rfl, deeper⟩ := regrouped
  exact ⟨front ++ front', node, other, back, by simp, by simp, deeper⟩

theorem append (regrouped : RegroupedAll nodes others) (back : List Node) :
    RegroupedAll (nodes ++ back) (others ++ back) := by
  obtain ⟨front, node, other, back', rfl, rfl, deeper⟩ := regrouped
  exact ⟨front, node, other, back' ++ back, by simp, by simp, deeper⟩

/-- A phrase with one more group in one of its parts. -/
theorem inside {rule : Rule} (regrouped : RegroupedAll nodes others)
    (outer : rule.isConnection = true) : Regrouped ⟨rule, 0, "", nodes⟩ ⟨rule, 0, "", others⟩ := by
  obtain ⟨front, node, other, back, rfl, rfl, deeper⟩ := regrouped
  exact .inside outer deeper

end RegroupedAll

theorem mem_preorderAll_append {node : Node} {nodes others : List Node} :
    node ∈ preorderAll (nodes ++ others) ↔
      node ∈ preorderAll nodes ∨ node ∈ preorderAll others := by
  simp only [mem_preorderAll, List.mem_append, or_and_right, exists_or]

/-- Of a condition the compiler looks at no text of its own. -/
theorem plain_of_isConnection {rule : Rule} (outer : rule.isConnection = true) (offset : Nat)
    (text : String) (children : List Node) :
    plain ⟨rule, offset, text, children⟩ = ⟨rule, 0, "", plainAll children⟩ := by
  have known : rule.isGeometry = false ∧ rule.isLabelled = false := by
    cases rule <;> first | exact ⟨rfl, rfl⟩ | cases outer
  simp [plain, known]

end Node

namespace Grammar

variable {phrase : Phrase} {offset : Nat} {text left : List Char} {nodes : List Node}
  {condition group : Node}

theorem isConnection_of_mentions {rule part : Rule} {body : Phrase}
    (defined : definition rule = .phrase body) (among : part ∈ body.mentions)
    (inner : part.isConnection = true) : rule.isConnection = true := by
  have known : (match definition rule with
      | .phrase body => rule.isConnection || !body.mentions.any Rule.isConnection
      | _ => true) = true := by
    cases rule <;> rfl
  simp only [defined, Bool.or_eq_true, Bool.not_eq_true'] at known
  refine known.resolve_right fun missing => ?_
  exact absurd (List.any_eq_true.2 ⟨part, among, inner⟩) (by simp [missing])

/-- A phrase with one more group in one of its parts is of a rule for conditions. -/
theorem isConnection_of_regrouped {rule : Rule} {body : Phrase} {others : List Node}
    (defined : definition rule = .phrase body) (lexed : Lexed body offset text nodes left)
    (regrouped : Node.RegroupedAll (Node.plainAll nodes) others) : rule.isConnection = true := by
  obtain ⟨front, node, _, back, whole, _, deeper⟩ := regrouped
  have among : node.rule ∈ nodes.map Node.rule := by
    rw [← Node.rules_plainAll, whole]
    simp
  have wholly : body.isWhole = true := by
    simpa [defined, Definition.isWhole] using isWhole_definition rule
  have spelled := (lexed.derives.spells_and_formed wholly).1
  exact isConnection_of_mentions defined (Phrase.mem_mentions_of_spells spelled among)
    deeper.isConnection

theorem Lexed.exists_node {rule : Rule} (lexed : Lexed (.ref rule) offset text nodes left) :
    ∃ node, nodes = [node] ∧ node.rule = rule := by
  cases lexed <;> exact ⟨_, rfl, rfl⟩

theorem Lexed.exists_condition (lexed : Lexed (.ref .booleanPrimary) offset text [group] left)
    (includes : group.includes .booleanExpression = true) :
    (∃ inner, text = '(' :: (inner ++ [')'])) ∧ ∃ condition : Node, condition.Formed ∧
      condition.rule = .booleanExpression ∧
      group.plain = ⟨.booleanPrimary, 0, "", [condition.plain]⟩ := by
  obtain ⟨part, among, kind⟩ := List.any_eq_true.1 includes
  have other {rule : Rule} {offset : Nat} {text left : List Char} {nodes : List Node}
      (lexed : Lexed (.ref rule) offset text nodes left) (among : part ∈ nodes) :
      rule = .booleanExpression := by
    obtain ⟨node, rfl, named⟩ := lexed.exists_node
    rw [← named, ← List.mem_singleton.1 among]
    exact beq_iff_eq.1 kind
  cases lexed with
  | token _ _ _ => cases among
  | phrase defined inner =>
      cases defined
      cases inner with
      | altFirst one => cases other one among
      | altSecond inner =>
          cases inner with
          | altFirst one => cases other one among
          | altSecond inner =>
              cases inner with
              | altSecond two => cases other two among
              | altFirst one =>
                  cases one with
                  | @seq _ _ _ _ gap' _ _ _ _ front _ last =>
                      cases last
                      cases front with
                      | @seq _ _ _ _ gap body _ _ _ first _ middle =>
                          cases first
                          have formed := (middle.derives.spells_and_formed rfl).2
                          obtain ⟨condition, rfl, named⟩ := middle.exists_node
                          refine ⟨⟨gap ++ body ++ gap', by simp⟩, condition,
                            formed condition (List.mem_singleton_self _), named, ?_⟩
                          exact Node.plain_of_isConnection rfl _ _ _

/-- A condition may be put into brackets. -/
theorem Lexed.primary {gap gap' : List Char} (blank : ∀ c ∈ gap, isBlank c = true)
    (blank' : ∀ c ∈ gap', isBlank c = true)
    (lexed : Lexed (.ref .booleanExpression) (offset + 1 + byteSize gap) text [condition]
      (gap' ++ ')' :: left)) :
    ∃ group, Lexed (.ref .booleanPrimary) offset ('(' :: (gap ++ text ++ gap' ++ [')'])) [group]
      left ∧ group.plain = ⟨.booleanPrimary, 0, "", [condition.plain]⟩ := by
  have first : Lexed (.symbol '(') offset ['('] [] (gap ++ (text ++ (gap' ++ ([')'] ++ left)))) :=
    .symbol (by decide)
  have front := Lexed.seq first blank lexed
  have whole : Lexed (.bracketed (.ref .booleanExpression)) offset
      (['('] ++ gap ++ text ++ gap' ++ [')']) ([condition] ++ []) left :=
    .seq front blank' (.symbol (by decide))
  have group := @Lexed.phrase .booleanPrimary _ _ _ _ _ rfl
    (.altSecond (.altSecond (.altFirst whole)))
  simp only [List.append_assoc, List.cons_append, List.nil_append] at group ⊢
  exact ⟨_, group, Node.plain_of_isConnection rfl _ _ _⟩

/-- What may stand in a condition by itself is a condition. -/
theorem Lexed.expression (lexed : Lexed (.ref .booleanPrimary) offset text [group] left)
    (whole : group.plain = ⟨.booleanPrimary, 0, "", [condition]⟩) :
    ∃ outer, Lexed (.ref .booleanExpression) offset text [outer] left ∧
      outer.plain = condition.inBrackets := by
  have unspaced : ∀ c ∈ ([] : List Char), isBlank c = true := List.forall_mem_nil _
  have factor := @Lexed.phrase .booleanFactor _ _ _ _ _ rfl (.seq .optNone unspaced lexed)
  have term := @Lexed.phrase .booleanTerm _ _ _ _ _ rfl (.seq factor unspaced .optNone)
  have expression := @Lexed.phrase .booleanExpression _ _ _ _ _ rfl (.seq term unspaced .optNone)
  simp only [List.append_nil, List.nil_append] at expression
  refine ⟨_, expression, ?_⟩
  simp [Node.plain_of_isConnection, Rule.isConnection, Node.plainAll, whole, Node.inBrackets]

/-- A condition in brackets that stands by itself may be put into brackets once more. -/
theorem Lexed.regroup_self (lexed : Lexed (.ref .booleanPrimary) offset text [group] left)
    (includes : group.includes .booleanExpression = true) (offset' : Nat) :
    ∃ other, Lexed (.ref .booleanPrimary) offset' ('(' :: (text ++ [')'])) [other] left ∧
      Node.Regrouped group.plain other.plain := by
  have closing : ')' ∈ ['(', ')', ','] := by decide
  obtain ⟨_, condition, formed, kind, whole⟩ := lexed.exists_condition includes
  obtain ⟨nodes, moved, same⟩ := lexed.move rfl (.mark closing left left) (offset' + 1)
  obtain ⟨group', rfl, _⟩ := moved.exists_node
  obtain ⟨outer, expression, plain⟩ := moved.expression ((List.cons.inj same).1.trans whole)
  have unspaced : ∀ c ∈ ([] : List Char), isBlank c = true := List.forall_mem_nil _
  obtain ⟨other, grouped, plain'⟩ := Lexed.primary unspaced unspaced expression
  simp only [List.nil_append, List.append_nil] at grouped
  refine ⟨other, grouped, ?_⟩
  rw [whole, plain', plain]
  exact .group formed kind

/-- The group stands in the text of the phrase, and may be put into brackets there. -/
def Regroups (phrase : Phrase) (offset : Nat) (text : List Char) (nodes : List Node)
    (left : List Char) (group : Node) : Prop :=
  (∃ inner, group.text.toList = '(' :: (inner ++ [')'])) ∧
    ∃ before after, text = before ++ (group.text.toList ++ after) ∧
      group.offset = offset + byteSize before ∧
      ∀ offset', ∃ others, Lexed phrase offset'
          (before ++ '(' :: (group.text.toList ++ ')' :: after)) others left ∧
        Node.RegroupedAll (Node.plainAll nodes) (Node.plainAll others)

namespace Regroups

/-- A group in what is described as another phrase. -/
theorem wrap {other : Phrase} (regroups : Regroups phrase offset text nodes left group)
    (wraps : ∀ {offset text nodes}, Lexed phrase offset text nodes left →
      Lexed other offset text nodes left) : Regroups other offset text nodes left group := by
  obtain ⟨shape, before, after, whole, place, again⟩ := regroups
  refine ⟨shape, before, after, whole, place, fun offset' => ?_⟩
  obtain ⟨others, lexed, regrouped⟩ := again offset'
  exact ⟨others, wraps lexed, regrouped⟩

variable {first second : Phrase} {lead gap text' : List Char} {nodes' : List Node}

/-- A group in one of two parts. What stands in front of it stays, since a bracket follows instead,
and what stands behind it stays but for its place. -/
theorem parts
    (build : ∀ {offset text nodes text' nodes'},
      Lexed first (offset + byteSize lead) text nodes (gap ++ (text' ++ left)) →
      Lexed second (offset + byteSize lead + byteSize text + byteSize gap) text' nodes' left →
      Lexed phrase offset (lead ++ text ++ gap ++ text') (nodes ++ nodes') left)
    (inner : first.isInner = true) (inner' : second.isInner = true)
    (one : Lexed first (offset + byteSize lead) text nodes (gap ++ (text' ++ left)))
    (two : Lexed second (offset + byteSize lead + byteSize text + byteSize gap) text' nodes' left)
    (either : Regroups first (offset + byteSize lead) text nodes (gap ++ (text' ++ left)) group ∨
      Regroups second (offset + byteSize lead + byteSize text + byteSize gap) text' nodes' left
        group) :
    Regroups phrase offset (lead ++ text ++ gap ++ text') (nodes ++ nodes') left group := by
  rcases either with ⟨shape, before, after, rfl, place, again⟩ |
    ⟨shape, before, after, rfl, place, again⟩
  · refine ⟨shape, lead ++ before, after ++ gap ++ text', by simp,
      by simp [place, byteSize_append, Nat.add_assoc], fun offset' => ?_⟩
    obtain ⟨others, front, regrouped⟩ := again (offset' + byteSize lead)
    obtain ⟨others', back, same⟩ := two.move inner' (.refl left) _
    have whole := build front back
    refine ⟨others ++ others', by simpa using whole, ?_⟩
    rw [Node.plainAll_append, Node.plainAll_append, same]
    exact regrouped.append _
  · have opening : '(' ∈ ['(', ')', ','] := by decide
    refine ⟨shape, lead ++ text ++ gap ++ before, after, by simp,
      by simp [place, byteSize_append, Nat.add_assoc], fun offset' => ?_⟩
    have admits : Admits (gap ++ (before ++ (group.text.toList ++ after) ++ left))
        (gap ++ (before ++ '(' :: (group.text.toList ++ ')' :: after) ++ left)) := by
      have kept := (Admits.mark opening (group.text.toList ++ after ++ left)
        (group.text.toList ++ ')' :: after ++ left)).prepend (gap ++ before)
      simpa using kept
    obtain ⟨others, front, same⟩ := one.move inner admits (offset' + byteSize lead)
    obtain ⟨others', back, regrouped⟩ :=
      again (offset' + byteSize lead + byteSize text + byteSize gap)
    have whole := build front back
    refine ⟨others ++ others', by simpa using whole, ?_⟩
    rw [Node.plainAll_append, Node.plainAll_append, same]
    exact regrouped.prepend _

end Regroups

/-- A condition in brackets may be put into brackets once more wherever it stands in a part of a
filter. -/
theorem Lexed.regroups (lexed : Lexed phrase offset text nodes left)
    (inner : phrase.isInner = true) (below : group ∈ Node.preorderAll nodes)
    (kind : group.rule = .booleanPrimary) (includes : group.includes .booleanExpression = true) :
    Regroups phrase offset text nodes left group := by
  induction lexed with
  | start | ending _ => cases inner
  | symbol _ | optNone | againNone => cases below
  | token _ _ _ =>
      obtain rfl := List.mem_singleton.1 below
      cases includes
  | @phrase rule body offset text left nodes defined lexed ih =>
      rw [Node.preorderAll, Node.preorderAll, List.append_nil, Node.preorder] at below
      rcases List.mem_cons.1 below with rfl | deeper
      · obtain rfl : rule = .booleanPrimary := kind
        obtain ⟨shape, _⟩ := (Lexed.phrase defined lexed).exists_condition includes
        rw [← String.toList_ofList (l := text)] at shape
        refine ⟨shape, [], [], by simp, by simp [byteSize], fun offset' => ?_⟩
        obtain ⟨other, grouped, regrouped⟩ :=
          (Lexed.phrase defined lexed).regroup_self includes offset'
        simp only [String.toList_ofList, List.nil_append]
        exact ⟨[other], grouped, regrouped.singleton⟩
      · obtain ⟨shape, before, after, whole, place, again⟩ :=
          ih (Phrase.isInner_body defined inner) deeper
        refine ⟨shape, before, after, whole, place, fun offset' => ?_⟩
        obtain ⟨others, lexed', regrouped⟩ := again offset'
        refine ⟨_, .phrase defined lexed', Node.Regrouped.singleton ?_⟩
        have outer := isConnection_of_regrouped defined lexed regrouped
        rw [Node.plain_of_isConnection outer, Node.plain_of_isConnection outer]
        exact regrouped.inside outer
  | @seq first second offset text gap text' left nodes nodes' one blank two ihOne ihTwo =>
      obtain ⟨innerOne, innerTwo⟩ := Bool.and_eq_true_iff.1 inner
      have whole : Regroups (.seq first second) offset ([] ++ text ++ gap ++ text')
          (nodes ++ nodes') left group := by
        refine Regroups.parts (fun one two => .seq one blank two) innerOne innerTwo one two ?_
        exact (Node.mem_preorderAll_append.1 below).imp (ihOne innerOne) (ihTwo innerTwo)
      exact whole
  | @join first second offset text text' left nodes nodes' one two ihOne ihTwo =>
      obtain ⟨innerOne, innerTwo⟩ := Bool.and_eq_true_iff.1 inner
      have whole : Regroups (.join first second) offset ([] ++ text ++ [] ++ text')
          (nodes ++ nodes') left group := by
        refine Regroups.parts (fun one two => ?_) innerOne innerTwo one two ?_
        · rw [List.nil_append] at one
          rw [List.append_nil]
          exact .join one two
        · exact (Node.mem_preorderAll_append.1 below).imp (ihOne innerOne) (ihTwo innerTwo)
      simpa only [List.append_nil, List.nil_append] using whole
  | altFirst _ ih => exact (ih (Bool.and_eq_true_iff.1 inner).1 below).wrap .altFirst
  | altSecond _ ih => exact (ih (Bool.and_eq_true_iff.1 inner).2 below).wrap .altSecond
  | optSome _ ih => exact (ih inner below).wrap .optSome
  | @againMore body offset lead text text' left nodes nodes' blank one more ihOne ihMore =>
      have whole : Regroups (.again body) offset (lead ++ text ++ [] ++ text')
          (nodes ++ nodes') left group := by
        refine Regroups.parts (fun one more => ?_) (show body.isInner = true from inner) inner one
          more ?_
        · rw [List.nil_append] at one
          rw [List.append_nil]
          exact .againMore blank one more
        · exact (Node.mem_preorderAll_append.1 below).imp (ihOne inner) (ihMore inner)
      simpa only [List.append_nil] using whole

end Grammar

/-! ## Whole filters -/

namespace Filter

open Grammar

variable {text : List Char} {tree : Node}

theorem exists_parts (lexed : Lexed (.ref .cqlFilter) 0 text [tree] []) :
    ∃ gap inner gap' condition, text = gap ++ inner ++ gap' ∧
      (∀ c ∈ gap, isBlank c = true) ∧ (∀ c ∈ gap', isBlank c = true) ∧
      Lexed (.ref .booleanExpression) (byteSize gap) inner [condition] gap' ∧
      tree = ⟨.cqlFilter, 0, String.ofList text,
        [condition, ⟨.endOfInput, byteSize text, "", []⟩]⟩ := by
  cases lexed with
  | token reads _ _ =>
      obtain ⟨_, _, defined, _⟩ := reads
      cases defined
  | phrase defined inner =>
      cases defined
      cases inner with
      | @seq _ _ _ _ gap' _ _ _ _ front blank' last =>
          cases last with
          | phrase defined _ => cases defined
          | token _ among _ => cases among
          | ending _ =>
              cases front with
              | @seq _ _ _ _ gap inner _ _ _ first blank middle =>
                  cases first
                  obtain ⟨condition, rfl, _⟩ := middle.exists_node
                  refine ⟨gap, inner, gap', condition, ?_, blank, blank', ?_, ?_⟩
                  · simp
                  · simpa using middle
                  · simp [byteSize_append, Nat.add_assoc]

theorem plain_filter {condition : Node} (offset last : Nat) (text : String) :
    Node.plain ⟨.cqlFilter, offset, text, [condition, ⟨.endOfInput, last, "", []⟩]⟩
      = ⟨.cqlFilter, 0, "", [condition.plain, ⟨.endOfInput, 0, "", []⟩]⟩ := by
  rw [Node.plain_of_isConnection rfl]
  rfl

theorem exists_filter {gap inner gap' : List Char} {condition : Node}
    (blank : ∀ c ∈ gap, isBlank c = true) (blank' : ∀ c ∈ gap', isBlank c = true)
    (lexed : Lexed (.ref .booleanExpression) (byteSize gap) inner [condition] gap') :
    ∃ tree, Lexed (.ref .cqlFilter) 0 (gap ++ inner ++ gap') [tree] [] ∧
      tree.plain = ⟨.cqlFilter, 0, "", [condition.plain, ⟨.endOfInput, 0, "", []⟩]⟩ := by
  have middle : Lexed (.ref .booleanExpression) (0 + byteSize [] + byteSize gap) inner [condition]
      (gap' ++ ([] ++ [])) := by
    simpa using lexed
  have front := Lexed.seq .start blank middle
  have whole := @Lexed.phrase .cqlFilter _ _ _ _ _ rfl (.seq front blank' (.ending _))
  simp only [List.append_nil, List.nil_append] at whole
  exact ⟨_, whole, plain_filter _ _ _⟩

/-- A filter in brackets is read again. -/
theorem exists_parse_inBrackets (found : Grammar.parse .cqlFilter text = .ok [tree]) :
    ∃ other, Grammar.parse .cqlFilter ('(' :: (text ++ [')'])) = .ok [other] ∧
      Node.Regrouped tree.plain other.plain := by
  have closing : ')' ∈ ['(', ')', ','] := by decide
  have unspaced : ∀ c ∈ ([] : List Char), isBlank c = true := List.forall_mem_nil _
  obtain ⟨gap, inner, gap', condition, rfl, blank, blank', middle, rfl⟩ :=
    exists_parts (lexed_of_parse found)
  have admits : Admits gap' (gap' ++ [')']) := by
    simpa using (Admits.mark closing [] []).prepend gap'
  obtain ⟨nodes, moved, same⟩ := middle.move rfl admits (0 + 1 + byteSize gap)
  obtain ⟨condition', rfl, _⟩ := moved.exists_node
  obtain ⟨group, grouped, plain⟩ := Lexed.primary blank blank' moved
  obtain ⟨outer, expression, plain'⟩ := grouped.expression plain
  obtain ⟨node, lexed, plain''⟩ := exists_filter unspaced unspaced expression
  simp only [List.nil_append, List.append_nil] at lexed
  obtain ⟨other, found', alike⟩ := exists_parse_plain lexed
  refine ⟨other, found', ?_⟩
  obtain ⟨_, formed⟩ := middle.derives.spells_and_formed rfl
  obtain ⟨_, whole, kind⟩ := middle.exists_node
  cases whole
  rw [alike, plain'', plain', (List.cons.inj same).1, plain_filter]
  exact .filter (formed condition (List.mem_singleton_self _)) kind

/-- A filter with a condition in brackets is read again if that condition is put into brackets once
more. -/
theorem exists_parse_regrouped {group : Node} (found : Grammar.parse .cqlFilter text = .ok [tree])
    (below : group ∈ tree.preorder) (kind : group.rule = .booleanPrimary)
    (includes : group.includes .booleanExpression = true) :
    ∃ before inner after, text = before ++ '(' :: (inner ++ ')' :: after) ∧
      byteSize before = group.offset ∧ group.text.toList = '(' :: (inner ++ [')']) ∧
      ∃ other, Grammar.parse .cqlFilter (before ++ '(' :: '(' :: (inner ++ ')' :: ')' :: after))
          = .ok [other] ∧
        Node.Regrouped tree.plain other.plain := by
  obtain ⟨gap, body, gap', condition, rfl, blank, blank', middle, rfl⟩ :=
    exists_parts (lexed_of_parse found)
  have deeper : group ∈ Node.preorderAll [condition] := by
    rw [Node.preorder, Node.preorderAll, Node.preorderAll] at below
    simp only [Node.preorder, Node.preorderAll, List.append_nil, List.mem_cons, List.mem_append,
      List.not_mem_nil, or_false] at below ⊢
    rcases below with rfl | inside | rfl
    · cases kind
    · exact inside
    · cases kind
  obtain ⟨⟨inner, shape⟩, before, after, rfl, place, again⟩ :=
    middle.regroups rfl deeper kind includes
  obtain ⟨others, lexed, regrouped⟩ := again (byteSize gap)
  obtain ⟨condition', rfl, _⟩ := lexed.exists_node
  obtain ⟨node, whole, plain⟩ := exists_filter blank blank' lexed
  obtain ⟨other, found', alike⟩ := exists_parse_plain whole
  refine ⟨gap ++ before, inner, after ++ gap', ?_, ?_, shape, other, ?_, ?_⟩
  · simp [shape]
  · rw [place, byteSize_append]
  · simpa [shape] using found'
  · rw [alike, plain, plain_filter]
    exact (regrouped.append [⟨.endOfInput, 0, "", []⟩]).inside rfl

end Filter

end Cql
