import Cql.Filter.Parse
import Cql.Proofs.Grammar.Language
import Cql.Proofs.Grammar.MatchStep

/-!
# Derivations

A derivation explains a stretch of text by a phrase, choice by choice, and carries the nodes that
the phrase makes of it. Every match is backed by a derivation. What the rest of the theory needs of
a syntax tree follows from its derivation alone: each node stands over children that the phrase of
its rule spells, and each token has a text of its pattern.
-/

namespace Cql.Grammar

/-- The phrase describes `text`, which begins at byte `offset`, and makes `nodes` of it. -/
inductive Derives : Phrase → Nat → List Char → List Node → Prop where
  | start : Derives .start 0 [] []
  | symbol (mark : Char) (offset : Nat) : Derives (.symbol mark) offset [mark] []
  | text {pattern : Pattern} {offset : Nat} {text left : List Char}
      (found : pattern.scan (text ++ left) = some (text, left)) :
      Derives (.text pattern) offset text []
  | token {rule : Rule} {pattern : Pattern} {offset : Nat} {text left : List Char}
      (defined : definition rule = .token pattern)
      (found : pattern.scan (text ++ left) = some (text, left)) :
      Derives (.ref rule) offset text [⟨rule, offset, String.ofList text, []⟩]
  | fragment {rule : Rule} {body : Phrase} {offset : Nat} {text : List Char} {nodes : List Node}
      (defined : definition rule = .fragment body) (inner : Derives body offset text nodes) :
      Derives (.ref rule) offset text nodes
  | phrase {rule : Rule} {body : Phrase} {offset : Nat} {text : List Char} {nodes : List Node}
      (defined : definition rule = .phrase body) (inner : Derives body offset text nodes) :
      Derives (.ref rule) offset text [⟨rule, offset, String.ofList text, nodes⟩]
  | seq {first second : Phrase} {offset : Nat} {text blanks text' : List Char}
      {nodes nodes' : List Node} (one : Derives first offset text nodes)
      (blank : ∀ c ∈ blanks, isBlank c = true)
      (two : Derives second (offset + Text.byteSize text + Text.byteSize blanks) text' nodes') :
      Derives (.seq first second) offset (text ++ blanks ++ text') (nodes ++ nodes')
  | join {first second : Phrase} {offset : Nat} {text text' : List Char}
      {nodes nodes' : List Node} (one : Derives first offset text nodes)
      (two : Derives second (offset + Text.byteSize text) text' nodes') :
      Derives (.join first second) offset (text ++ text') (nodes ++ nodes')
  | altFirst {first second : Phrase} {offset : Nat} {text : List Char} {nodes : List Node}
      (one : Derives first offset text nodes) : Derives (.alt first second) offset text nodes
  | altSecond {first second : Phrase} {offset : Nat} {text : List Char} {nodes : List Node}
      (two : Derives second offset text nodes) : Derives (.alt first second) offset text nodes
  | optNone (inner : Phrase) (offset : Nat) : Derives (.opt inner) offset [] []
  | optSome {inner : Phrase} {offset : Nat} {text : List Char} {nodes : List Node}
      (one : Derives inner offset text nodes) : Derives (.opt inner) offset text nodes
  | againNone (inner : Phrase) (offset : Nat) : Derives (.again inner) offset [] []
  | againMore {inner : Phrase} {offset : Nat} {blanks text text' : List Char}
      {nodes nodes' : List Node} (blank : ∀ c ∈ blanks, isBlank c = true)
      (one : Derives inner (offset + Text.byteSize blanks) text nodes)
      (more : Derives (.again inner)
        (offset + Text.byteSize blanks + Text.byteSize text) text' nodes') :
      Derives (.again inner) offset (blanks ++ text ++ text') (nodes ++ nodes')

/-- What is skipped between the parts of a phrase is blank. -/
theorem isBlank_of_mem_takeWhile {cs : List Char} (c : Char) (member : c ∈ cs.takeWhile isBlank) :
    isBlank c = true :=
  List.all_eq_true.1 List.all_takeWhile c member

/-- A token that was found stands at the front of the text that it was looked for in. -/
theorem scan_of_matchPattern {pattern : Pattern} {here stop : Cursor} {text : List Char}
    (found : matchPattern pattern here = some (text, stop)) :
    pattern.scan (text ++ stop.rest) = some (text, stop.rest) := by
  obtain ⟨parts, scanned, pair⟩ := Option.map_eq_some_iff.1 found
  cases pair
  have whole : here.rest = parts.1 ++ parts.2 := pattern.eq_append_of_scan scanned
  change pattern.scan (parts.1 ++ parts.2) = some parts
  rw [← whole]
  exact scanned

/-- Every match is backed by a derivation. -/
theorem derives_of_matchPhrase {depth : Nat} {phrase : Phrase} {here stop : Cursor}
    {before after : Frontier} {text : List Char} {nodes : List Node}
    (found : matchPhrase depth phrase here before = .matched text nodes stop after) :
    Derives phrase here.offset text nodes := by
  induction depth generalizing phrase here stop before after text nodes with
  | zero => cases found
  | succ depth ih =>
      cases matchStep_of_matchPhrase found with
      | start first =>
          rw [first]
          exact .start
      | symbol _ => exact .symbol _ _
      | text taken => exact .text (scan_of_matchPattern taken)
      | token defined taken => exact .token defined (scan_of_matchPattern taken)
      | fragment defined inner => exact .fragment defined (ih inner)
      | phrase defined inner => exact .phrase defined (ih inner)
      | seq one two =>
          refine .seq (ih one) isBlank_of_mem_takeWhile ?_
          rw [← (reaches_of_matchPhrase one).offset_eq]
          exact ih two
      | join one two =>
          refine .join (ih one) ?_
          rw [← (reaches_of_matchPhrase one).offset_eq]
          exact ih two
      | altFirst one => exact .altFirst (ih one)
      | altSecond _ two => exact .altSecond (ih two)
      | optSome one => exact .optSome (ih one)
      | optNone _ => exact .optNone _ _
      | againMore one more =>
          have rounds := ih more
          rw [(reaches_of_matchPhrase one).offset_eq] at rounds
          exact .againMore isBlank_of_mem_takeWhile (ih one) rounds
      | againNone _ => exact .againNone _ _

/-! ## Fragments -/

def Phrase.isWhole : Phrase → Bool
  | .ref rule =>
      match definition rule with
      | .fragment _ => false
      | _ => true
  | .seq first second | .join first second | .alt first second => first.isWhole && second.isWhole
  | .opt inner | .again inner => inner.isWhole
  | .start | .symbol _ | .text _ => true

def Definition.isWhole : Definition → Bool
  | .phrase body => body.isWhole
  | _ => true

/-- Rules that make no node are used inside tokens only. -/
theorem isWhole_definition (rule : Rule) : (definition rule).isWhole = true := by
  cases rule <;> rfl

end Cql.Grammar

namespace Cql

open Cql.Grammar

/-- The node agrees with the grammar: a token has a text of its pattern and no children, and the
children of any other node are spelled by the phrase of its rule. -/
inductive Node.Formed : Node → Prop where
  | token {rule : Rule} {pattern : Pattern} {offset : Nat} {text : String}
      (defined : definition rule = .token pattern) (taken : pattern.Takes text.toList) :
      Formed ⟨rule, offset, text, []⟩
  | phrase {rule : Rule} {body : Phrase} {offset : Nat} {text : String} {children : List Node}
      (defined : definition rule = .phrase body)
      (spelled : body.Spells (children.map Node.rule))
      (inner : ∀ child ∈ children, Formed child) :
      Formed ⟨rule, offset, text, children⟩

namespace Grammar.Derives

/-- The nodes of a derivation are spelled by its phrase and agree with the grammar. -/
theorem spells_and_formed {phrase : Phrase} {offset : Nat} {text : List Char} {nodes : List Node}
    (derived : Derives phrase offset text nodes) (whole : phrase.isWhole = true) :
    phrase.Spells (nodes.map Node.rule) ∧ ∀ node ∈ nodes, node.Formed := by
  induction derived with
  | start | symbol _ _ | text _ => exact ⟨rfl, by simp⟩
  | token defined found =>
      refine ⟨rfl, fun node member => ?_⟩
      rw [List.mem_singleton.1 member]
      exact .token defined (by simpa using Pattern.takes_of_scan _ found)
  | fragment defined inner ih => simp [Phrase.isWhole, defined] at whole
  | @phrase rule body offset text nodes defined inner ih =>
      have bodyWhole : body.isWhole = true := by
        simpa [defined, Definition.isWhole] using isWhole_definition rule
      obtain ⟨spelled, formed⟩ := ih bodyWhole
      refine ⟨rfl, fun node member => ?_⟩
      rw [List.mem_singleton.1 member]
      exact .phrase defined spelled formed
  | seq one blank two ihOne ihTwo | join one two ihOne ihTwo =>
      obtain ⟨wholeOne, wholeTwo⟩ := Bool.and_eq_true_iff.1 whole
      obtain ⟨spelledOne, formedOne⟩ := ihOne wholeOne
      obtain ⟨spelledTwo, formedTwo⟩ := ihTwo wholeTwo
      exact ⟨⟨_, _, spelledOne, spelledTwo, List.map_append⟩,
        fun node member => (List.mem_append.1 member).elim (formedOne node) (formedTwo node)⟩
  | altFirst one ih =>
      obtain ⟨spelled, formed⟩ := ih (Bool.and_eq_true_iff.1 whole).1
      exact ⟨.inl spelled, formed⟩
  | altSecond two ih =>
      obtain ⟨spelled, formed⟩ := ih (Bool.and_eq_true_iff.1 whole).2
      exact ⟨.inr spelled, formed⟩
  | optNone inner offset => exact ⟨.inl rfl, by simp⟩
  | optSome one ih =>
      obtain ⟨spelled, formed⟩ := ih whole
      exact ⟨.inr spelled, formed⟩
  | againNone inner offset => exact ⟨⟨[], by simp, rfl⟩, by simp⟩
  | againMore blank one more ihOne ihMore =>
      obtain ⟨spelledOne, formedOne⟩ := ihOne whole
      obtain ⟨⟨rounds, all, rest⟩, formedMore⟩ := ihMore whole
      refine ⟨⟨_ :: rounds, ?_, by rw [List.map_append, rest, List.flatten_cons]⟩,
        fun node member => (List.mem_append.1 member).elim (formedOne node) (formedMore node)⟩
      intro round member
      rcases List.mem_cons.1 member with rfl | later
      · exact spelledOne
      · exact all round later

end Grammar.Derives

namespace Node

/-- The nodes below several trees are those below each of them. -/
theorem mem_preorderAll {node : Node} {trees : List Node} :
    node ∈ preorderAll trees ↔ ∃ tree ∈ trees, node ∈ tree.preorder := by
  induction trees with
  | nil => simp [preorderAll]
  | cons tree trees ih => simp [preorderAll, ih]

/-- A node of a tree is its root or a node of one of the trees below the root. -/
theorem mem_preorder {node tree : Node} :
    node ∈ tree.preorder ↔ node = tree ∨ ∃ child ∈ tree.children, node ∈ child.preorder := by
  cases tree
  rw [preorder, List.mem_cons, mem_preorderAll]

theorem self_mem_preorder (node : Node) : node ∈ node.preorder :=
  mem_preorder.2 (.inl rfl)

/-- The children of a node that agrees with the grammar do so too. -/
theorem Formed.children {node : Node} (formed : node.Formed) :
    ∀ child ∈ node.children, child.Formed := by
  cases formed with
  | token defined taken => simp
  | phrase defined spelled inner => exact inner

/-- Induction over trees that agree with the grammar, tokens and phrases alike: what holds of a node
whenever it holds of its children holds of every node. -/
theorem Formed.induction {motive : (node : Node) → node.Formed → Prop}
    (step : ∀ (node : Node) (formed : node.Formed),
      (∀ (child : Node) (among : child ∈ node.children),
        motive child (formed.children child among)) → motive node formed)
    {node : Node} (formed : node.Formed) : motive node formed := by
  induction formed with
  | token defined taken =>
      refine step _ (.token defined taken) fun child among => ?_
      cases among
  | phrase defined spelled inner ih => exact step _ (.phrase defined spelled inner) ih

/-- Every node of a tree that agrees with the grammar does so itself. -/
theorem Formed.of_mem_preorder {tree node : Node} (formed : tree.Formed)
    (member : node ∈ tree.preorder) : node.Formed := by
  induction formed using Formed.induction with
  | step tree formed ih =>
      rcases mem_preorder.1 member with rfl | ⟨child, among, below⟩
      · exact formed
      · exact ih child among below

/-- The children of a node are spelled by the phrase of its rule. -/
theorem Formed.spelled {node : Node} {body : Phrase} (formed : node.Formed)
    (defined : definition node.rule = .phrase body) : body.Spells (node.children.map rule) := by
  cases formed with
  | token other taken => rw [other] at defined; cases defined
  | phrase other spelled inner => rw [other] at defined; cases defined; exact spelled

/-- The rule of a child stands in the phrase of its parent. -/
theorem Formed.rule_of_child {node child : Node} {body : Phrase} (formed : node.Formed)
    (defined : definition node.rule = .phrase body) (among : child ∈ node.children) :
    child.rule ∈ body.mentions :=
  Phrase.mem_mentions_of_spells (formed.spelled defined) (List.mem_map_of_mem among)

/-- What holds of every rule in the phrase of a node holds of the rules of its children. -/
theorem Formed.all_of_child {node child : Node} {kind : Rule → Bool} (formed : node.Formed)
    (all : (match definition node.rule with
      | .phrase body => body.mentions.all kind
      | _ => true) = true) (among : child ∈ node.children) : kind child.rule = true := by
  cases formed with
  | token defined taken => cases among
  | phrase defined spelled inner =>
      simp only [defined] at all
      exact List.all_eq_true.1 all _
        (Phrase.mem_mentions_of_spells spelled (List.mem_map_of_mem among))

/-- A token has no children. -/
theorem Formed.children_of_token {node : Node} {pattern : Pattern} (formed : node.Formed)
    (defined : definition node.rule = .token pattern) : node.children = [] := by
  cases formed with
  | token other taken => rfl
  | phrase other spelled inner => rw [other] at defined; cases defined

/-- A token has a text of its pattern. -/
theorem Formed.taken {node : Node} {pattern : Pattern} (formed : node.Formed)
    (defined : definition node.rule = .token pattern) : pattern.Takes node.text.toList := by
  cases formed with
  | token other taken => rw [other] at defined; cases defined; exact taken
  | phrase other spelled inner => rw [other] at defined; cases defined

end Node

/-! ## Reading a filter -/

namespace Grammar

/-- Whether every text of the pattern has a character that is not white space. Only fixed words
are looked at, which is enough to tell for the patterns that matter. -/
def Pattern.isVisible : Pattern → Bool
  | .literal word => word.toList.any fun c => !Text.isWhiteSpace c
  | .caseless word => word.toList.any fun c => !Text.isWhiteSpace c.toLower
  | .seq first second => first.isVisible || second.isVisible
  | .alt first second => first.isVisible && second.isVisible
  | .one _ | .opt _ | .many _ | .not _ => false

def Phrase.isVisible (known : Rule → Bool) : Phrase → Bool
  | .symbol mark => !Text.isWhiteSpace mark
  | .text pattern => pattern.isVisible
  | .ref rule => known rule
  | .seq first second => first.isVisible known || second.isVisible known
  | .join first second => first.isVisible known || second.isVisible known
  | .alt first second => first.isVisible known && second.isVisible known
  | .start | .opt _ | .again _ => false

/-- Whether every text of the rule has a character that is not white space, looking `depth` rules
down. -/
def isVisible : Nat → Rule → Bool
  | 0, _ => false
  | depth + 1, rule =>
      match definition rule with
      | .token pattern => pattern.isVisible
      | .phrase body => body.isVisible (isVisible depth)
      | .fragment body => body.isVisible (isVisible depth)

theorem toLower_of_isWhiteSpace {c : Char} (white : Text.isWhiteSpace c = true) :
    c.toLower = c := by
  have notUpper : ¬(c.val ≥ 'A'.val ∧ c.val ≤ 'Z'.val) := by
    rintro ⟨low, high⟩
    have least : 65 ≤ c.toNat := low
    have most : c.toNat ≤ 90 := high
    simp [Text.isWhiteSpace, Text.inRanges, Text.whiteSpaceRanges] at white
    omega
  exact dif_neg notUpper

theorem Pattern.exists_visible {pattern : Pattern} {cs : List Char} (taken : pattern.Takes cs)
    (visible : pattern.isVisible = true) : ∃ c ∈ cs, Text.isWhiteSpace c = false := by
  induction pattern generalizing cs with
  | literal word =>
      obtain ⟨c, member, plain⟩ := List.any_eq_true.1 visible
      rw [show cs = word.toList from taken]
      exact ⟨c, member, by simpa using plain⟩
  | caseless word =>
      obtain ⟨w, member, plain⟩ := List.any_eq_true.1 visible
      have image : w.toLower ∈ cs.map Char.toLower := by
        rw [show cs.map Char.toLower = word.toList.map Char.toLower from taken]
        exact List.mem_map_of_mem member
      obtain ⟨c, among, same⟩ := List.mem_map.1 image
      refine ⟨c, among, ?_⟩
      cases white : Text.isWhiteSpace c with
      | false => rfl
      | true =>
          rw [← same, toLower_of_isWhiteSpace white, white] at plain
          cases plain
  | seq first second ihFirst ihSecond =>
      obtain ⟨xs, ys, takenFirst, takenSecond, rfl⟩ := taken
      rcases Bool.or_eq_true_iff.1 visible with one | two
      · obtain ⟨c, member, plain⟩ := ihFirst takenFirst one
        exact ⟨c, List.mem_append_left _ member, plain⟩
      · obtain ⟨c, member, plain⟩ := ihSecond takenSecond two
        exact ⟨c, List.mem_append_right _ member, plain⟩
  | alt first second ihFirst ihSecond =>
      obtain ⟨one, two⟩ := Bool.and_eq_true_iff.1 visible
      rcases taken with takenFirst | takenSecond
      · exact ihFirst takenFirst one
      · exact ihSecond takenSecond two
  | one _ | opt _ _ | many _ _ | not _ _ => cases visible

theorem Derives.exists_visible {phrase : Phrase} {offset : Nat} {text : List Char}
    {nodes : List Node} (derived : Derives phrase offset text nodes) {depth : Nat}
    (visible : phrase.isVisible (isVisible depth) = true) :
    ∃ c ∈ text, Text.isWhiteSpace c = false := by
  induction derived generalizing depth with
  | start => cases visible
  | symbol mark offset =>
      exact ⟨mark, List.mem_singleton_self mark, by simpa [Phrase.isVisible] using visible⟩
  | text found => exact Pattern.exists_visible (Pattern.takes_of_scan _ found) visible
  | token defined found =>
      cases depth with
      | zero => cases visible
      | succ depth =>
          simp only [Phrase.isVisible, isVisible, defined] at visible
          exact Pattern.exists_visible (Pattern.takes_of_scan _ found) visible
  | fragment defined inner ih | phrase defined inner ih =>
      cases depth with
      | zero => cases visible
      | succ depth =>
          simp only [Phrase.isVisible, isVisible, defined] at visible
          exact ih visible
  | seq one blank two ihOne ihTwo =>
      rcases Bool.or_eq_true_iff.1 visible with left | right
      · obtain ⟨c, member, plain⟩ := ihOne left
        exact ⟨c, List.mem_append_left _ (List.mem_append_left _ member), plain⟩
      · obtain ⟨c, member, plain⟩ := ihTwo right
        exact ⟨c, List.mem_append_right _ member, plain⟩
  | join one two ihOne ihTwo =>
      rcases Bool.or_eq_true_iff.1 visible with left | right
      · obtain ⟨c, member, plain⟩ := ihOne left
        exact ⟨c, List.mem_append_left _ member, plain⟩
      · obtain ⟨c, member, plain⟩ := ihTwo right
        exact ⟨c, List.mem_append_right _ member, plain⟩
  | altFirst one ih => exact ih (Bool.and_eq_true_iff.1 visible).1
  | altSecond two ih => exact ih (Bool.and_eq_true_iff.1 visible).2
  | optNone _ _ | optSome _ _ | againNone _ _ | againMore _ _ _ _ _ => cases visible

/-- Nine levels down every filter is seen to have a character that is not white space: each
condition has an operator, a reserved word or a bracket. -/
theorem isVisible_cqlFilter : isVisible 9 .cqlFilter = true :=
  rfl

end Grammar

namespace Filter

/-- The tree of a filter comes with a derivation of it from a front part of the filter. -/
theorem derives_of_parse {filter : String} {tree : Node} (accepted : parse filter = .ok tree) :
    ∃ text : List Char, text <+: filter.toList ∧ Derives (.ref .cqlFilter) 0 text [tree] := by
  simp only [parse, parseChars] at accepted
  split at accepted
  · cases accepted
  · split at accepted
    · next first others parsed =>
        cases accepted
        obtain ⟨stop, _, _, text, _, matched⟩ := exists_spans_of_parse parsed
        refine ⟨text, ⟨stop.rest, (reaches_of_matchPhrase matched).rest_eq.symm⟩, ?_⟩
        cases derives_of_matchPhrase matched with
        | phrase defined inner => exact .phrase defined inner
        | token defined found => cases defined
        | fragment defined inner => cases defined
    · cases accepted
    · cases accepted

/-- The tree of a filter agrees with the grammar. -/
theorem formed_of_parse {filter : String} {tree : Node} (accepted : parse filter = .ok tree) :
    tree.Formed := by
  obtain ⟨text, _, derived⟩ := derives_of_parse accepted
  exact (derived.spells_and_formed rfl).2 tree (List.mem_singleton_self tree)

/-- The tree of a filter is made by the rule for whole filters. -/
theorem rule_of_parse {filter : String} {tree : Node} (accepted : parse filter = .ok tree) :
    tree.rule = .cqlFilter := by
  obtain ⟨text, _, derived⟩ := derives_of_parse accepted
  exact List.singleton_inj.1 (derived.spells_and_formed rfl).1

theorem isBlank_of_parse {filter : String} {tree : Node} (accepted : parse filter = .ok tree) :
    Text.isBlank filter = false := by
  obtain ⟨text, front, derived⟩ := derives_of_parse accepted
  obtain ⟨c, member, plain⟩ := derived.exists_visible (show isVisible 9 .cqlFilter = true from
    isVisible_cqlFilter)
  refine List.all_eq_false.2 ⟨c, front.subset member, ?_⟩
  simp [plain]

end Filter

end Cql
