import Cql.Grammar.Rule

/-!
# The failure frontier

While a text is matched many rules fail and are replaced by an alternative. What a user wants to
hear about are the failures farthest to the right: the frontier keeps the rules that failed there.
-/

namespace Cql.Grammar

/-- The rightmost byte at which a rule failed so far, and the rules that failed there, in the order
of their failures. -/
structure Frontier where
  offset : Nat := 0
  rules : List Rule := []
  deriving DecidableEq, Repr

namespace Frontier

def countAt (frontier : Frontier) (offset : Nat) : Nat :=
  if frontier.offset = offset then frontier.rules.length else 0

/-- Notes that a rule failed which began at `offset`. Here `before` is the frontier at its start and
`after` the one its parts left. A failure left of the frontier says nothing new. At the frontier
the rule takes the place of the failures of its parts, unless exactly one of its parts failed
there: then the part says more than the rule. -/
def note (before after : Frontier) (offset : Nat) (rule : Rule) : Frontier :=
  let known := before.countAt offset
  if after.countAt offset = known + 1 then after
  else if offset < after.offset then after
  else if offset = after.offset then ⟨offset, after.rules.take known ++ [rule]⟩
  else ⟨offset, [rule]⟩

end Frontier

end Cql.Grammar
