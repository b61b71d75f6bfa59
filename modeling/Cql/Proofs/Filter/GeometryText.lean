import Cql.Proofs.Filter.Respelling
import Cql.Proofs.Grammar.BracketBalance
import Cql.Proofs.Grammar.Placement

/-!
# The texts of geometries

Of a syntax tree the compiler looks at the rules, at the texts of tokens, and at the texts of
geometries, which may be laid out in many ways. In a given text the tokens have their places, and a
geometry ends with the bracket that closes the one behind its first word. So the tokens of a tree
decide where its geometries stand, and what their texts are.
-/

namespace Cql

/-- Whether the rule describes a geometry or a collection of geometries. -/
def Rule.isGeometry (rule : Rule) : Bool :=
  rule == .geometryLiteral || rule == .geometryCollection

namespace Grammar

open Cql.Filter

/-! ## Words with brackets -/

inductive IsBlock : List Char → Prop where
  | intro {c : Char} {word inner : List Char} (begins : isSeparator c = false)
      (free : '(' ∉ c :: word) (level : Deepens inner 0) :
      IsBlock (c :: word ++ '(' :: (inner ++ [')']))

/-- A text that closes all that it opens ends where the bracket in front of it is closed. -/
theorem eq_of_deepens {inner inner' rest rest' : List Char} (level : Deepens inner 0)
    (level' : Deepens inner' 0) (same : inner ++ ')' :: rest = inner' ++ ')' :: rest') :
    inner = inner' := by
  have short {inner more rest rest' : List Char} (level : Deepens inner 0)
      (level' : Deepens (inner ++ more) 0) (same : ')' :: rest = more ++ ')' :: rest') :
      more = [] := by
    cases more with
    | nil => rfl
    | cons c more =>
        obtain rfl := (List.cons.inj same).1
        have open' := level' 1
        have closed := level' 0
        rw [List.foldl_append, level, List.foldl_cons] at open' closed
        exact absurd (open'.symm.trans closed) (by decide)
  rcases List.append_eq_append_iff.1 same with ⟨more, rfl, whole⟩ | ⟨more, rfl, whole⟩
  · rw [short level level' whole, List.append_nil]
  · rw [short level' level whole, List.append_nil]

theorem takeWhile_word {word rest : List Char} (free : '(' ∉ word) :
    (word ++ '(' :: rest).takeWhile (· != '(') = word := by
  rw [List.takeWhile_append_of_pos, List.takeWhile_cons_of_neg, List.append_nil]
  · decide
  · intro c among
    refine bne_iff_ne.2 ?_
    rintro rfl
    exact free among

/-- Where two blocks begin at one place, they are the same. -/
theorem IsBlock.unique {text text' rest rest' : List Char} (block : IsBlock text)
    (block' : IsBlock text') (same : text ++ rest = text' ++ rest') : text = text' := by
  cases block with
  | @intro c word inner _ free level =>
      cases block' with
      | @intro c' word' inner' _ free' level' =>
          have whole : c :: word ++ '(' :: (inner ++ ')' :: rest)
              = c' :: word' ++ '(' :: (inner' ++ ')' :: rest') := by
            simpa only [List.append_assoc, List.cons_append, List.nil_append] using same
          have words := congrArg (List.takeWhile (· != '(')) whole
          rw [takeWhile_word free, takeWhile_word free'] at words
          rw [words] at whole
          have inners := (List.cons.inj (List.append_cancel_left whole)).2
          rw [words, eq_of_deepens level level' inners]

/-- What stands between brackets is closed by the last of them. -/
theorem Derives.exists_inner {inner : Phrase} {offset : Nat} {text : List Char} {nodes : List Node}
    (derived : Derives (.bracketed inner) offset text nodes) (level : inner.isLevel = true) :
    ∃ inside, text = '(' :: (inside ++ [')']) ∧ Deepens inside 0 := by
  cases derived with
  | @seq _ _ _ _ gap' _ _ _ front blank' last =>
      cases last
      cases front with
      | @seq _ _ _ _ gap body _ _ first blank middle =>
          cases first
          refine ⟨gap ++ (body ++ gap'), ?_, ?_⟩
          · simp only [List.append_assoc, List.cons_append, List.nil_append]
          · exact (deepens_blanks blank).append
              ((middle.deepens_of_isLevel level).append (deepens_blanks blank'))

theorem Derives.isBlock {word : Keyword} {back : Phrase} {offset : Nat} {text : List Char}
    {nodes : List Node} (derived : Derives (.seq (Phrase.kw word) back) offset text nodes)
    (closing : ∀ {offset text nodes}, Derives back offset text nodes →
      ∃ inside, text = '(' :: (inside ++ [')']) ∧ Deepens inside 0) : IsBlock text := by
  cases derived with
  | @seq _ _ _ front gap _ _ _ first blank last =>
      obtain ⟨inside, rfl, level⟩ := closing last
      cases first with
      | phrase defined _ => cases defined
      | fragment defined _ => cases defined
      | token defined found =>
          have reads := reads_of_scan defined (by simp) found
          obtain ⟨c, cs, rfl, among⟩ := reads.look
          have free : '(' ∉ c :: cs := by
            have known := avoids_definition (.keyword word)
            simp only [defined] at known
            intro bracket
            exact Pattern.not_mem_of_takes (Pattern.takes_of_scan _ found) known _ bracket
              (by decide)
          have begins : isSeparator c = false :=
            isSeparator_of_look (show look c ∈ looksOf (.keyword word) from among)
          have block := @IsBlock.intro c (cs ++ gap) inside begins ?_ level
          · simpa only [List.append_assoc, List.cons_append] using block
          · rw [← List.cons_append, List.mem_append]
            rintro (front | inside)
            · exact free front
            · exact absurd (blank _ inside) (by decide)

theorem Derives.exists_body {rule : Rule} {body : Phrase} {offset : Nat} {text : List Char}
    {nodes : List Node} (derived : Derives (.ref rule) offset text nodes)
    (defined : definition rule = .phrase body) : ∃ children, Derives body offset text children := by
  cases derived with
  | token other _ => cases defined.symm.trans other
  | fragment other _ => cases defined.symm.trans other
  | phrase same inner =>
      cases defined.symm.trans same
      exact ⟨_, inner⟩

theorem Derives.isBlock_of_geometry {rule : Rule} {offset : Nat} {text : List Char}
    {nodes : List Node} (derived : Derives (.ref rule) offset text nodes)
    (geometry : rule.isGeometry = true) : IsBlock text := by
  have bracket {rule : Rule} {word : Keyword} {inner : Phrase} {nodes : List Node}
      (derived : Derives (.ref rule) offset text nodes)
      (defined : definition rule = .phrase (.seq (Phrase.kw word) (.bracketed inner)))
      (level : inner.isLevel = true) : IsBlock text := by
    obtain ⟨_, body⟩ := derived.exists_body defined
    exact body.isBlock fun last => last.exists_inner level
  have named {rule part : Rule} {word : Keyword} {inner : Phrase} {nodes : List Node}
      (derived : Derives (.ref rule) offset text nodes)
      (defined : definition rule = .phrase (.seq (Phrase.kw word) (.ref part)))
      (defined' : definition part = .phrase (.bracketed inner)) (level : inner.isLevel = true) :
      IsBlock text := by
    obtain ⟨_, body⟩ := derived.exists_body defined
    refine body.isBlock fun last => ?_
    obtain ⟨_, inside⟩ := last.exists_body defined'
    exact inside.exists_inner level
  rcases Bool.or_eq_true_iff.1 geometry with literal | collection
  · rw [beq_iff_eq.1 literal] at derived
    obtain ⟨_, body⟩ := derived.exists_body rfl
    cases body with
    | altFirst one => exact bracket one rfl rfl
    | altSecond body =>
        cases body with
        | altFirst one => exact named one rfl rfl rfl
        | altSecond body =>
            cases body with
            | altFirst one => exact named one rfl rfl rfl
            | altSecond body =>
                cases body with
                | altFirst one => exact bracket one rfl rfl
                | altSecond body =>
                    cases body with
                    | altFirst one => exact bracket one rfl rfl
                    | altSecond two => exact bracket two rfl rfl
  · rw [beq_iff_eq.1 collection] at derived
    exact bracket derived rfl rfl

end Grammar

/-! ## What is looked at from left to right -/

structure Item where
  isBlock : Bool
  text : String
  deriving DecidableEq, Repr

/-- Both are geometries, or both are the same token. -/
def Item.Agrees (item other : Item) : Prop :=
  item.isBlock = other.isBlock ∧ (item.isBlock = false → item.text = other.text)

namespace Node

open Grammar

mutual

/-- The tokens and geometries of a node from left to right. The end of the text is none. -/
def items : Node → List Item
  | ⟨rule, _, text, children⟩ =>
      if rule.isGeometry then [⟨true, text⟩]
      else
        match definition rule with
        | .token _ => if rule = .endOfInput then [] else [⟨false, text⟩]
        | _ => itemsAll children

def itemsAll : List Node → List Item
  | [] => []
  | node :: nodes => items node ++ itemsAll nodes

end

theorem itemsAll_append (nodes others : List Node) :
    itemsAll (nodes ++ others) = itemsAll nodes ++ itemsAll others := by
  induction nodes with
  | nil => rfl
  | cons node nodes ih => rw [List.cons_append, itemsAll, itemsAll, ih, List.append_assoc]

end Node

namespace Filter

open Grammar

/-- The items stand in the text in their order, with blanks and punctuation marks between them. -/
inductive Strung : List Item → List Char → Prop where
  | nil : Strung [] []
  | separator {c : Char} {items : List Item} {cs : List Char} (separates : isSeparator c = true)
      (more : Strung items cs) : Strung items (c :: cs)
  | item {item : Item} {c : Char} {text cs : List Char} {items : List Item}
      (whole : item.text.toList = c :: text) (begins : isSeparator c = false)
      (block : item.isBlock = true → IsBlock item.text.toList) (more : Strung items cs) :
      Strung (item :: items) (item.text.toList ++ cs)

namespace Strung

variable {items others : List Item} {cs : List Char}

theorem separators {gap : List Char} (separate : ∀ c ∈ gap, isSeparator c = true)
    (strung : Strung items cs) : Strung items (gap ++ cs) := by
  induction gap with
  | nil => exact strung
  | cons c gap ih =>
      obtain ⟨first, rest⟩ := List.forall_mem_cons.1 separate
      exact .separator first (ih rest)

/-- In one text, items that agree are the same. -/
theorem unique (strung : Strung items cs) (strung' : Strung others cs)
    (agree : List.Forall₂ Item.Agrees items others) : items = others := by
  induction strung generalizing others with
  | nil =>
      cases agree
      rfl
  | @separator c items cs separates _ ih =>
      generalize whole : c :: cs = text at strung'
      cases strung' with
      | nil => cases whole
      | separator _ more =>
          cases whole
          exact ih more agree
      | item first begins _ _ =>
          rw [first] at whole
          cases whole
          cases begins.symm.trans separates
  | @item item c text cs items first begins block _ ih =>
      generalize whole : item.text.toList ++ cs = front at strung'
      cases strung' with
      | nil =>
          rw [first] at whole
          cases whole
      | separator separates _ =>
          rw [first] at whole
          cases whole
          cases begins.symm.trans separates
      | @item item' c' text' cs' items' first' begins' block' more =>
          cases agree with
          | cons pair rest =>
              have texts : item.text = item'.text := by
                cases kind : item.isBlock with
                | false => exact pair.2 kind
                | true =>
                    refine String.toList_inj.1 ((block kind).unique (block' ?_) whole)
                    rw [← pair.1]
                    exact kind
              rw [texts] at whole
              have same : item = item' := by
                cases item
                cases item'
                exact Item.mk.injEq .. ▸ ⟨pair.1, texts⟩
              rw [same, ih (List.append_cancel_left whole ▸ more) rest]

end Strung

/-- The items that a phrase is made of stand in front of the others. -/
theorem Strung.lexed {phrase : Phrase} {offset : Nat} {text left : List Char} {nodes : List Node}
    (lexed : Lexed phrase offset text nodes left) {items : List Item}
    (strung : Strung items left) : Strung (Node.itemsAll nodes ++ items) (text ++ left) := by
  have separators {gap : List Char} (blank : ∀ c ∈ gap, isBlank c = true) :
      ∀ c ∈ gap, isSeparator c = true := fun c among => isSeparator_of_isBlank (blank c among)
  induction lexed generalizing items with
  | start | optNone | againNone => exact strung
  | ending _ => exact strung
  | symbol marks => exact .separator (isSeparator_of_mem marks) strung
  | @token rule look offset text left reads among lexeme =>
      obtain ⟨c, cs, rfl, looks⟩ := reads.look
      obtain ⟨visible, pattern, defined, whole⟩ := reads
      have plain : rule.isGeometry = false := by
        rw [Bool.eq_false_iff]
        intro geometry
        rcases Bool.or_eq_true_iff.1 geometry with same | same <;>
          rw [beq_iff_eq.1 same] at defined <;> cases defined
      have ending : rule ≠ .endOfInput := by
        rintro rfl
        cases defined
        exact visible (Pattern.takes_of_scan _ whole)
      have begins : isSeparator c = false :=
        isSeparator_of_look (show Grammar.look c ∈ looksOf rule from looks)
      have first := @Strung.item ⟨false, String.ofList (c :: cs)⟩ c cs left items
        String.toList_ofList begins (fun block => by cases block) strung
      simpa only [Node.itemsAll, Node.items, plain, defined, if_neg ending, Bool.false_eq_true,
        if_false, List.append_nil, List.singleton_append, String.toList_ofList] using first
  | @phrase rule body offset text left nodes defined inner ih =>
      simp only [Node.itemsAll, Node.items, defined, List.append_nil]
      split
      · next geometry =>
          have block := (Lexed.phrase defined inner).derives.isBlock_of_geometry geometry
          have shape := block
          cases block with
          | @intro c word inside begins _ _ =>
              have first := @Strung.item ⟨true, String.ofList _⟩ c _ left items
                String.toList_ofList begins (fun _ => by rwa [String.toList_ofList]) strung
              rwa [String.toList_ofList] at first
      · exact ih strung
  | seq _ blank _ ihOne ihTwo =>
      simp only [Node.itemsAll_append, List.append_assoc]
      exact ihOne ((ihTwo strung).separators (separators blank))
  | join _ _ ihOne ihTwo =>
      simp only [Node.itemsAll_append, List.append_assoc]
      exact ihOne (ihTwo strung)
  | altFirst _ ih | altSecond _ ih | optSome _ ih => exact ih strung
  | againMore blank _ _ ihOne ihMore =>
      simp only [Node.itemsAll_append, List.append_assoc]
      exact (ihOne (ihMore strung)).separators (separators blank)

end Filter

/-! ## What the compiler looks at -/

/-- Whether the text of a node of the rule may be looked at: that of tokens and of properties. -/
def Rule.isLabelled (rule : Rule) : Bool :=
  rule == .propertyName || match Grammar.definition rule with
    | .token _ => true
    | _ => false

namespace Node

open Grammar

mutual

/-- The node without its place, and without the texts that the compiler does not look at. Of a
geometry that is the whole text, and nothing of its parts. -/
def plain : Node → Node
  | ⟨rule, _, text, children⟩ =>
      if rule.isGeometry then ⟨rule, 0, text, []⟩
      else ⟨rule, 0, if rule.isLabelled then text else "", plainAll children⟩

def plainAll : List Node → List Node
  | [] => []
  | node :: nodes => plain node :: plainAll nodes

end

theorem plainAll_append (nodes others : List Node) :
    plainAll (nodes ++ others) = plainAll nodes ++ plainAll others := by
  induction nodes with
  | nil => rfl
  | cons node nodes ih => rw [List.cons_append, plainAll, plainAll, ih, List.cons_append]

theorem rule_plain (node : Node) : node.plain.rule = node.rule := by
  cases node
  rw [plain]
  split <;> rfl

theorem rules_plainAll (nodes : List Node) : (plainAll nodes).map rule = nodes.map rule := by
  induction nodes with
  | nil => rfl
  | cons node nodes ih => rw [plainAll, List.map_cons, List.map_cons, rule_plain, ih]

/-- Two trees have the same outline as tokens with the same text, or as phrases with parts of the
same outlines. -/
theorem outline_cases {rule rule' : Rule} {offset offset' : Nat} {text text' : String}
    {children children' : List Node}
    (same : outline ⟨rule, offset, text, children⟩ = outline ⟨rule', offset', text', children'⟩) :
    rule' = rule ∧ (((∃ pattern, definition rule = .token pattern) ∧ text' = text) ∨
      ((∀ pattern, definition rule ≠ .token pattern) ∧
        outlineAll children = outlineAll children')) := by
  simp only [outline] at same
  split at same
  · next pattern defined =>
      split at same
      · cases same
        exact ⟨rfl, .inl ⟨⟨pattern, defined⟩, rfl⟩⟩
      · cases same
  · next other =>
      split at same
      · cases same
      · obtain ⟨rfl, parts⟩ := Outline.branch.inj same
        exact ⟨rfl, .inr ⟨other, parts⟩⟩

mutual

theorem items_agree : (node other : Node) → node.outline = other.outline →
    List.Forall₂ Item.Agrees node.items other.items
  | ⟨rule, _, text, children⟩, ⟨rule', _, text', children'⟩, same => by
      obtain ⟨rfl, ⟨⟨pattern, defined⟩, rfl⟩ | ⟨other, parts⟩⟩ := outline_cases same
      · simp only [items, defined]
        exact List.forall₂_same.2 fun _ _ => ⟨rfl, fun _ => rfl⟩
      · simp only [items]
        split
        · exact .cons ⟨rfl, fun block => by cases block⟩ .nil
        · cases defined : definition rule' with
          | token pattern => exact absurd defined (other pattern)
          | phrase _ | fragment _ => exact itemsAll_agree children children' parts

theorem itemsAll_agree : (nodes others : List Node) → outlineAll nodes = outlineAll others →
    List.Forall₂ Item.Agrees (itemsAll nodes) (itemsAll others)
  | [], [], _ => .nil
  | node :: nodes, other :: others, same => by
      obtain ⟨first, rest⟩ := List.cons.inj same
      exact List.rel_append (items_agree node other first) (itemsAll_agree nodes others rest)

end

/-- A token has no parts. -/
theorem Placed.children_of_token {node : Node} {pattern : Pattern} (placed : node.Placed)
    (defined : definition node.rule = .token pattern) : node.children = [] := by
  cases placed with
  | intro derived _ _ =>
      generalize whole : [node] = nodes at derived
      cases derived with
      | token _ _ => exact congrArg Node.children (List.cons.inj whole).1
      | phrase other _ => cases defined.symm.trans other
      | fragment other _ => cases defined.symm.trans other

theorem Placed.identifier_of_propertyName {node : Node} (placed : node.Placed)
    (named : node.rule = .propertyName) :
    ∃ child, node.children = [child] ∧ child.rule = .identifier ∧ child.text = node.text := by
  have inside {offset : Nat} {text : List Char} {nodes : List Node}
      (derived : Derives (.ref .propertyName) offset text nodes) :
      ∃ child, nodes = [⟨.propertyName, offset, String.ofList text, [child]⟩] ∧
        child.rule = .identifier ∧ child.text = String.ofList text := by
    cases derived with
    | token defined _ => cases defined
    | fragment defined _ => cases defined
    | phrase defined inner =>
        cases defined
        cases inner with
        | token _ _ => exact ⟨_, rfl, rfl, rfl⟩
        | phrase defined _ => cases defined
        | fragment defined _ => cases defined
  cases placed with
  | intro derived _ _ =>
      rw [named] at derived
      obtain ⟨child, whole, identifier, text⟩ := inside derived
      rw [String.ofList_toList] at whole text
      refine ⟨child, ?_, identifier, text⟩
      rw [(List.cons.inj whole).1]

theorem Placed.text_of_propertyName {node other : Node} (placed : node.Placed)
    (placed' : other.Placed) (named : node.rule = .propertyName)
    (named' : other.rule = .propertyName)
    (parts : outlineAll node.children = outlineAll other.children) : other.text = node.text := by
  obtain ⟨child, whole, identifier, text⟩ := placed.identifier_of_propertyName named
  obtain ⟨found, whole', _, text'⟩ := placed'.identifier_of_propertyName named'
  rw [whole, whole'] at parts
  obtain ⟨rule, offset, _, children⟩ := child
  obtain ⟨rule', offset', _, children'⟩ := found
  obtain ⟨_, ⟨_, same⟩ | ⟨other, _⟩⟩ := outline_cases (List.cons.inj parts).1
  · rw [← text, ← text']
    exact same
  · rw [show rule = .identifier from identifier] at other
    exact absurd rfl (other _)

mutual

theorem plain_eq : (node other : Node) → node.Placed → other.Placed →
    node.outline = other.outline → node.items = other.items → node.plain = other.plain
  | ⟨rule, offset, text, children⟩, ⟨rule', offset', text', children'⟩, placed, placed', same,
      items => by
      obtain ⟨rfl, ⟨⟨pattern, defined⟩, rfl⟩ | ⟨other, parts⟩⟩ := outline_cases same
      · have leaf : children = [] := placed.children_of_token defined
        have leaf' : children' = [] := placed'.children_of_token defined
        rw [leaf, leaf']
        simp only [plain]
      · simp only [plain]
        split
        · next geometry =>
            simp only [Node.items, geometry, if_true, List.cons.injEq, Item.mk.injEq, and_true,
              true_and] at items
            rw [items]
        · next inner =>
            have texts : (if rule'.isLabelled then text else "")
                = if rule'.isLabelled then text' else "" := by
              split
              · next labelled =>
                  rcases Bool.or_eq_true_iff.1 labelled with named | token
                  · exact (placed.text_of_propertyName placed' (beq_iff_eq.1 named)
                      (beq_iff_eq.1 named) parts).symm
                  · split at token
                    · next pattern defined => exact absurd defined (other pattern)
                    · cases token
              · rfl
            have below : itemsAll children = itemsAll children' := by
              simpa only [Node.items, if_neg inner] using items
            rw [texts, plainAll_eq children children' placed.children placed'.children parts below]

theorem plainAll_eq : (nodes others : List Node) → (∀ node ∈ nodes, node.Placed) →
    (∀ node ∈ others, node.Placed) → outlineAll nodes = outlineAll others →
    itemsAll nodes = itemsAll others → plainAll nodes = plainAll others
  | [], [], _, _, _, _ => rfl
  | node :: nodes, other :: others, placed, placed', same, items => by
      obtain ⟨first, rest⟩ := List.cons.inj same
      obtain ⟨here, there⟩ := List.forall_mem_cons.1 placed
      obtain ⟨here', there'⟩ := List.forall_mem_cons.1 placed'
      obtain ⟨front, back⟩ :=
        List.append_inj items (items_agree node other first).length_eq
      rw [plainAll, plainAll, plain_eq node other here here' first front,
        plainAll_eq nodes others there there' rest back]

end

end Node

namespace Filter

open Grammar

/-- A filter over lexemes is read, and its tree is to the compiler the one that it was described
with. -/
theorem exists_parse_plain {text : List Char} {node : Node}
    (lexed : Lexed (.ref .cqlFilter) 0 text [node] []) :
    ∃ tree, Grammar.parse .cqlFilter text = .ok [tree] ∧ tree.plain = node.plain := by
  obtain ⟨tree, found, same⟩ := exists_parse_of_lexed lexed
  have strung {node : Node} (lexed : Lexed (.ref .cqlFilter) 0 text [node] []) :
      Strung node.items text := by
    simpa only [Node.itemsAll, List.append_nil] using Strung.nil.lexed lexed
  have placed {node : Node} (lexed : Lexed (.ref .cqlFilter) 0 text [node] []) : node.Placed :=
    lexed.derives.placed.2 node (List.mem_singleton_self node)
  have lexed' := lexed_of_parse found
  have items := (strung lexed').unique (strung lexed) (Node.items_agree tree node same)
  exact ⟨tree, found, Node.plain_eq tree node (placed lexed') (placed lexed) same items⟩

end Filter

end Cql
