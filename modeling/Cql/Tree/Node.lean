import Cql.Grammar.Rule

/-!
# Syntax trees

A syntax tree records which rule matched which stretch of the filter. The tree keeps every rule that
makes a node, so that a compilation can be driven by the rules alone.
-/

namespace Cql

/-- A node of a syntax tree: the rule that matched, the byte at which the match begins, the text it
covers, and the nodes of its parts from left to right. -/
structure Node where
  rule : Rule
  offset : Nat
  text : String
  children : List Node
  deriving Repr

namespace Node

def stop (node : Node) : Nat :=
  node.offset + node.text.utf8ByteSize

def child? (node : Node) (rule : Rule) : Option Node :=
  node.children.find? fun child => child.rule == rule

def includes (node : Node) (rule : Rule) : Bool :=
  node.children.any fun child => child.rule == rule

def count (node : Node) (rule : Rule) : Nat :=
  node.children.countP fun child => child.rule == rule

mutual

def preorder : Node → List Node
  | ⟨rule, offset, text, children⟩ => ⟨rule, offset, text, children⟩ :: preorderAll children

def preorderAll : List Node → List Node
  | [] => []
  | node :: nodes => preorder node ++ preorderAll nodes

end

mutual

/-- The tree in brackets: a rule name followed by its parts or, in a leaf, by the text. The end of
the input is left out. -/
def render : Node → String
  | ⟨rule, _, text, children⟩ =>
      let parts := renderAll children
      "(" ++ rule.name ++ " " ++ (if parts.isEmpty then text else String.intercalate " " parts)
        ++ ")"

def renderAll : List Node → List String
  | [] => []
  | node :: nodes =>
      if node.rule == .endOfInput then renderAll nodes else render node :: renderAll nodes

end

end Node

inductive Visit where
  | enter (node : Node)
  | leave (node : Node)

namespace Node

mutual

def visits : Node → List Visit
  | ⟨rule, offset, text, children⟩ =>
      .enter ⟨rule, offset, text, children⟩
        :: visitsAll children ++ [.leave ⟨rule, offset, text, children⟩]

def visitsAll : List Node → List Visit
  | [] => []
  | node :: nodes => visits node ++ visitsAll nodes

end

end Node

end Cql
