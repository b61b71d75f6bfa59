import Cql.Compile.State

/-!
# Taking operands together and one by one

The operands of a part of a filter are taken from the stack together, in the order in which they
were put there. This is the same as taking them one by one and turning their order around, also
where the stack runs out: what an empty stack yields again and again then stands in front.
-/

namespace Cql

open Cql.Sql

namespace Sql.Stack

/-! ## One by one -/

/-- The operands that come off when the top one is taken `n` times, the first one first, and the
stack that is left. -/
def pops : Nat → Stack → List Operand × Stack
  | 0, stack => ([], stack)
  | n + 1, stack =>
      let (top, below) := stack.pop
      let (others, left) := pops n below
      (top :: others, left)

theorem pops_succ (n : Nat) (stack : Stack) :
    pops (n + 1) stack = (stack.pop.1 :: (pops n stack.pop.2).1, (pops n stack.pop.2).2) := rfl

theorem pops_append (top below : Stack) : pops top.length (top ++ below) = (top, below) := by
  induction top with
  | nil => rfl
  | cons operand top ih => rw [List.length_cons, pops_succ, List.cons_append, pop, ih]

theorem pops_nil (n : Nat) : pops n [] = (List.replicate n .blank, []) := by
  induction n with
  | zero => rfl
  | succ n ih => rw [pops_succ, pop, ih, List.replicate_succ]

/-- To go on taking operands is to take them from what was left. -/
theorem pops_add (m n : Nat) (stack : Stack) :
    pops (m + n) stack = ((pops m stack).1 ++ (pops n (pops m stack).2).1,
      (pops n (pops m stack).2).2) := by
  induction m generalizing stack with
  | zero =>
      rw [Nat.zero_add]
      rfl
  | succ m ih => rw [Nat.add_right_comm, pops_succ, ih, pops_succ, List.cons_append]

/-- A stack that runs out has yielded all its operands and goes on with empty ones. -/
theorem pops_length_add (stack : Stack) (missing : Nat) :
    pops (stack.length + missing) stack = (stack ++ List.replicate missing .blank, []) := by
  have all := pops_append stack []
  rw [List.append_nil] at all
  rw [pops_add, all, pops_nil]

/-! ## Together -/

theorem splitTop_succ (stack : Stack) (n : Nat) :
    stack.splitTop (n + 1)
      = ((stack.pop.2.splitTop n).1 ++ [stack.pop.1], (stack.pop.2.splitTop n).2) := by
  cases stack with
  | nil => simp [splitTop, pop, List.replicate_succ']
  | cons top below => simp [splitTop, pop]

/-- To take operands together is to take them one by one, in the opposite order. -/
theorem splitTop_eq_reverse_pops (stack : Stack) (n : Nat) :
    stack.splitTop n = ((pops n stack).1.reverse, (pops n stack).2) := by
  induction n generalizing stack with
  | zero => rfl
  | succ n ih => rw [splitTop_succ, ih, pops_succ, List.reverse_cons]

end Sql.Stack

namespace Compilation

/-! ## In a compilation -/

/-- The operands that come off when the top one is taken `n` times, and the state that is left. -/
def pops : Nat → Compilation → List Operand × Compilation
  | 0, state => ([], state)
  | n + 1, state =>
      let (top, state) := state.pop
      let (others, state) := pops n state
      (top :: others, state)

def pushAll (state : Compilation) (operands : List Operand) : Compilation :=
  operands.foldl (fun state operand => state.push operand) state

theorem pops_eq (n : Nat) (state : Compilation) :
    pops n state = ((state.stack.pops n).1, { state with stack := (state.stack.pops n).2 }) := by
  induction n generalizing state with
  | zero => rfl
  | succ n ih => simp only [pops, pop, ih, Stack.pops_succ]

theorem pushAll_eq (state : Compilation) (operands : List Operand) :
    state.pushAll operands = { state with stack := operands.reverse ++ state.stack } := by
  induction operands generalizing state with
  | nil => rfl
  | cons operand operands ih =>
      rw [List.reverse_cons, List.append_assoc]
      exact ih (state.push operand)

/-- Operands that are taken together come as they do one by one, in the opposite order, and leave
the same behind. Where the stack runs out, empty operands stand in front for the missing ones. In a
compilation the same holds and nothing but the stack changes, so that operands which were put on the
stack are taken off again in that order and leave the state as it was. -/
theorem splitTop_agrees_with_pop :
    (∀ (stack : Stack) (n : Nat),
      stack.splitTop n = ((stack.pops n).1.reverse, (stack.pops n).2)) ∧
    (∀ (stack : Stack) (missing : Nat),
      stack.splitTop (stack.length + missing)
        = (List.replicate missing .blank ++ stack.reverse, [])) ∧
    (∀ (state : Compilation) (n : Nat),
      state.splitTop n = ((state.pops n).1.reverse, (state.pops n).2)) ∧
    ∀ (state : Compilation) (operands : List Operand),
      (state.pushAll operands).splitTop operands.length = (operands, state) := by
  refine ⟨Stack.splitTop_eq_reverse_pops, fun stack missing => ?_, fun state n => ?_,
    fun state operands => ?_⟩
  · rw [Stack.splitTop_eq_reverse_pops, Stack.pops_length_add, List.reverse_append,
      List.reverse_replicate]
  · rw [pops_eq]
    simp only [splitTop, Stack.splitTop_eq_reverse_pops]
  · have taken := Stack.pops_append operands.reverse state.stack
    rw [List.length_reverse] at taken
    rw [pushAll_eq]
    simp only [splitTop, Stack.splitTop_eq_reverse_pops, taken, List.reverse_reverse]

end Compilation

end Cql
