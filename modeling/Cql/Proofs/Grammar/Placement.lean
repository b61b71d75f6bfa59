import Cql.Proofs.Grammar.Derivation

/-!
# Where nodes stand

The nodes that a phrase makes stand in its text from left to right, and those below a node stand
inside the text of the node. A node therefore ends before its next sibling begins.
-/

namespace Cql

open Cql.Grammar

namespace Node

/-- The nodes stand one after the other in a text that begins at byte `offset`. -/
inductive Row : Nat → List Char → List Node → Prop where
  | nil (offset : Nat) (text : List Char) : Row offset text []
  | cons {offset : Nat} {before after : List Char} {node : Node} {nodes : List Node}
      (front : node.offset = offset + Text.byteSize before)
      (others : Row (node.offset + Text.byteSize node.text.toList) after nodes) :
      Row offset (before ++ node.text.toList ++ after) (node :: nodes)

namespace Row

variable {offset : Nat} {text : List Char} {nodes : List Node}

/-- Nodes stay where they are when there is more text before them. -/
theorem after {before : List Char} (row : Row (offset + Text.byteSize before) text nodes) :
    Row offset (before ++ text) nodes := by
  cases row with
  | nil => exact .nil _ _
  | cons front others =>
      rw [← List.append_assoc, ← List.append_assoc]
      refine .cons ?_ others
      rw [front, Text.byteSize_append, Nat.add_assoc]

theorem append {text' : List Char} {others : List Node} (one : Row offset text nodes)
    (two : Row (offset + Text.byteSize text) text' others) :
    Row offset (text ++ text') (nodes ++ others) := by
  induction one with
  | nil offset text => exact two.after
  | cons front rest ih =>
      rw [List.append_assoc]
      refine .cons front (ih ?_)
      rw [front]
      simpa only [Text.byteSize_append, ← Nat.add_assoc] using two

/-- Nodes that stand inside the nodes of a row stand in a row themselves. -/
theorem flatMap (row : Row offset text nodes) {inner : Node → List Node}
    (each : ∀ node ∈ nodes, Row node.offset node.text.toList (inner node)) :
    Row offset text (nodes.flatMap inner) := by
  induction row with
  | nil offset text => exact .nil offset text
  | @cons offset before after node nodes front others ih =>
      obtain ⟨one, rest⟩ := List.forall_mem_cons.1 each
      rw [List.flatMap_cons, List.append_assoc]
      rw [front] at one ih
      exact (one.append (ih rest)).after

/-- A node of a row stands inside the text. -/
theorem within (row : Row offset text nodes) {node : Node} (among : node ∈ nodes) :
    offset ≤ node.offset ∧
      node.offset + Text.byteSize node.text.toList ≤ offset + Text.byteSize text := by
  induction row with
  | nil => cases among
  | cons front others ih =>
      rw [Text.byteSize_append, Text.byteSize_append]
      rcases List.mem_cons.1 among with rfl | later
      · omega
      · have inside := ih later
        omega

theorem eq_of_overlap (row : Row offset text nodes) {one two : Node} (first : one ∈ nodes)
    (second : two ∈ nodes) (place : Nat)
    (inOne : one.offset ≤ place ∧ place < one.offset + Text.byteSize one.text.toList)
    (inTwo : two.offset ≤ place ∧ place < two.offset + Text.byteSize two.text.toList) :
    one = two := by
  induction row with
  | nil => cases first
  | cons front others ih =>
      rcases List.mem_cons.1 first with rfl | behind
      · rcases List.mem_cons.1 second with rfl | behind'
        · rfl
        · have later := others.within behind'
          omega
      · rcases List.mem_cons.1 second with rfl | behind'
        · have later := others.within behind
          omega
        · exact ih behind behind'

theorem not_mem_tail {node : Node} (row : Row offset text (node :: nodes))
    (filled : 0 < Text.byteSize node.text.toList) : node ∉ nodes := by
  intro among
  cases row with
  | cons front others =>
      have later := others.within among
      omega

theorem singleton (node : Node) : Row node.offset node.text.toList [node] := by
  have row : Row node.offset ([] ++ node.text.toList ++ []) [node] := .cons rfl (.nil _ _)
  rwa [List.nil_append, List.append_nil] at row

end Row

/-- The node was derived, and its children stand in its text one after the other. -/
inductive Placed : Node → Prop where
  | intro {node : Node}
      (derived : Derives (.ref node.rule) node.offset node.text.toList [node])
      (row : Row node.offset node.text.toList node.children)
      (inner : ∀ child ∈ node.children, Placed child) : Placed node

theorem Placed.children {node : Node} (placed : node.Placed) (child : Node)
    (among : child ∈ node.children) : child.Placed := by
  cases placed with
  | intro _ _ inner => exact inner child among

/-- Every node below a node that stands in its place does so itself. -/
theorem Placed.of_mem_preorder {tree node : Node} (placed : tree.Placed)
    (below : node ∈ tree.preorder) : node.Placed := by
  induction placed with
  | @intro tree derived row inner ih =>
      rcases mem_preorder.1 below with rfl | ⟨child, among, below⟩
      · exact .intro derived row inner
      · exact ih child among below

/-- What is below a node stands inside its text. -/
theorem Placed.within {tree node : Node} (placed : tree.Placed) (below : node ∈ tree.preorder) :
    tree.offset ≤ node.offset ∧
      node.offset + Text.byteSize node.text.toList
        ≤ tree.offset + Text.byteSize tree.text.toList := by
  induction placed with
  | intro derived row inner ih =>
      rcases mem_preorder.1 below with rfl | ⟨child, among, below⟩
      · exact ⟨Nat.le_refl _, Nat.le_refl _⟩
      · have outer := row.within among
        have inside := ih child among below
        omega

theorem Placed.mem_preorder_of_child {tree node child : Node} (placed : tree.Placed)
    (below : node ∈ tree.preorder) (among : child ∈ node.children) : child ∈ tree.preorder := by
  induction placed with
  | intro derived row inner ih =>
      rcases mem_preorder.1 below with rfl | ⟨other, here, below⟩
      · exact mem_preorder.2 (.inr ⟨child, among, self_mem_preorder child⟩)
      · exact mem_preorder.2 (.inr ⟨other, here, ih other here below⟩)

theorem Placed.not_mem_children {tree node : Node} (placed : tree.Placed)
    (below : node ∈ tree.preorder) : tree ∉ node.children := by
  induction placed generalizing node with
  | intro derived row inner ih =>
      intro among
      rcases mem_preorder.1 below with rfl | ⟨child, here, below⟩
      · exact ih _ among (self_mem_preorder _) among
      · exact ih child here ((inner child here).mem_preorder_of_child below among) here

theorem Placed.parent_unique {tree one two child : Node} (placed : tree.Placed)
    (below : one ∈ tree.preorder) (below' : two ∈ tree.preorder) (among : child ∈ one.children)
    (among' : child ∈ two.children) (filled : 0 < Text.byteSize child.text.toList) : one = two := by
  induction placed with
  | @intro tree derived row inner ih =>
      have inside {branch node : Node} (here : branch ∈ tree.children)
          (below : node ∈ branch.preorder) (among : child ∈ node.children) :=
        (inner branch here).within ((inner branch here).mem_preorder_of_child below among)
      have atRoot {branch node : Node} (first : child ∈ tree.children)
          (here : branch ∈ tree.children) (below : node ∈ branch.preorder)
          (among : child ∈ node.children) : False := by
        have span := inside here below among
        obtain rfl : child = branch :=
          row.eq_of_overlap first here child.offset (by omega) (by omega)
        exact (inner child here).not_mem_children below among
      rcases mem_preorder.1 below with rfl | ⟨branch, here, deeper⟩
      · rcases mem_preorder.1 below' with rfl | ⟨branch, here, deeper⟩
        · rfl
        · exact (atRoot among here deeper among').elim
      · rcases mem_preorder.1 below' with rfl | ⟨branch', here', deeper'⟩
        · exact (atRoot among' here deeper among).elim
        · have span := inside here deeper among
          have span' := inside here' deeper' among'
          obtain rfl : branch = branch' :=
            row.eq_of_overlap here here' child.offset (by omega) (by omega)
          exact ih branch here deeper deeper'

end Node

/-- The nodes of a derivation stand in its text, and what is below them stands in theirs. -/
theorem Grammar.Derives.placed {phrase : Phrase} {offset : Nat} {text : List Char}
    {nodes : List Node} (derived : Derives phrase offset text nodes) :
    Node.Row offset text nodes ∧ ∀ node ∈ nodes, node.Placed := by
  induction derived with
  | start | symbol _ _ | text _ | optNone _ _ | againNone _ _ => exact ⟨.nil _ _, by simp⟩
  | @token rule pattern offset text left defined found =>
      have self : Derives (.ref rule) offset text [⟨rule, offset, String.ofList text, []⟩] :=
        .token defined found
      have row := Node.Row.singleton ⟨rule, offset, String.ofList text, []⟩
      simp only [String.toList_ofList] at row
      refine ⟨row, fun node among => ?_⟩
      rw [List.mem_singleton.1 among]
      exact .intro (by simpa using self) (.nil _ _) (by simp)
  | fragment defined inner ih => exact ih
  | @phrase rule body offset text nodes defined inner ih =>
      have self : Derives (.ref rule) offset text [⟨rule, offset, String.ofList text, nodes⟩] :=
        .phrase defined inner
      have row := Node.Row.singleton ⟨rule, offset, String.ofList text, nodes⟩
      simp only [String.toList_ofList] at row
      refine ⟨row, fun node among => ?_⟩
      rw [List.mem_singleton.1 among]
      exact .intro (by simpa using self) (by simpa using ih.1) ih.2
  | seq one blank two ihOne ihTwo =>
      refine ⟨?_, fun node among => (List.mem_append.1 among).elim (ihOne.2 node) (ihTwo.2 node)⟩
      rw [List.append_assoc]
      exact ihOne.1.append ihTwo.1.after
  | join one two ihOne ihTwo =>
      exact ⟨ihOne.1.append ihTwo.1, fun node among =>
        (List.mem_append.1 among).elim (ihOne.2 node) (ihTwo.2 node)⟩
  | altFirst one ih | altSecond two ih | optSome one ih => exact ih
  | againMore blank one more ihOne ihMore =>
      refine ⟨?_, fun node among => (List.mem_append.1 among).elim (ihOne.2 node) (ihMore.2 node)⟩
      rw [List.append_assoc]
      exact (ihOne.1.append ihMore.1).after

/-- Every node of a filter stands in its place. -/
theorem Filter.placed_of_parse {filter : String} {tree : Node}
    (accepted : parse filter = .ok tree) : Node.Row 0 filter.toList [tree] ∧ tree.Placed := by
  obtain ⟨text, ⟨rest, whole⟩, derived⟩ := derives_of_parse accepted
  obtain ⟨row, placed⟩ := derived.placed
  have wider := row.append (.nil _ rest)
  rw [whole, List.append_nil] at wider
  exact ⟨wider, placed tree (List.mem_singleton_self tree)⟩

end Cql
