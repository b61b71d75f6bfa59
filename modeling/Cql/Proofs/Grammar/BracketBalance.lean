import Cql.Proofs.Grammar.TreeHeight

/-!
# Open brackets along a text

The pass over the characters of a text counts the brackets that are open and never gets below none.
What a rule describes closes the brackets that it opens, and closes no others, so that in front of
it and behind it the same number of brackets is open. This holds for each part of a filter, wherever
it stands.
-/

namespace Cql.Grammar

open Cql.Filter

/-! ## Phrases -/

def Phrase.dip : Phrase → Int
  | .symbol mark => -turn [mark]
  | .seq first second | .join first second => max first.dip (second.dip - first.net)
  | .alt first second => max first.dip second.dip
  | .opt inner | .again inner => inner.dip
  | .start | .text _ | .ref _ => 0

/-- No rule closes a bracket that it did not open. -/
theorem dip_definition (rule : Rule) :
    (match definition rule with
      | .phrase body => decide (body.dip ≤ 0)
      | _ => true) = true := by
  cases rule <;> rfl

variable {depth : Nat} {tokens : List (List Char)} {text more : List Char}

theorem depthAfter_eq {token : List Char} (partner : -turn token ≤ depth) :
    (depthAfter depth token : Int) = depth + turn token := by
  unfold turn at partner ⊢
  unfold depthAfter
  split
  · omega
  · next other =>
      rw [if_neg other] at partner
      split
      · next closes =>
          rw [if_pos closes] at partner
          omega
      · omega

/-- Where enough brackets are open, the tokens of a phrase open and close as many as the phrase
says. -/
theorem Derivation.foldl_depthAfter {phrase : Phrase} {outlines : List Outline}
    (derived : Derivation phrase tokens outlines) (balanced : phrase.isBalanced = true)
    (enough : phrase.dip ≤ depth) :
    ((tokens.foldl depthAfter depth : Nat) : Int) = depth + phrase.net := by
  induction derived generalizing depth with
  | start | ending | optNone _ | againNone _ => exact (Int.add_zero _).symm
  | symbol mark => exact depthAfter_eq enough
  | token reads =>
      have flat := turn_of_reads reads
      rw [List.foldl_cons, List.foldl_nil, depthAfter_eq (by rw [flat]; exact enough), flat]
      rfl
  | @phrase rule body _ _ defined _ ih =>
      have known := isBalanced_definition rule
      have shallow := dip_definition rule
      simp only [defined, Bool.and_eq_true, beq_iff_eq, decide_eq_true_eq] at known shallow
      rw [ih known.1 (by omega), known.2]
      rfl
  | seq _ _ ihOne ihTwo | join _ _ ihOne ihTwo =>
      obtain ⟨one, two⟩ := Bool.and_eq_true_iff.1 balanced
      obtain ⟨here, later⟩ := Int.max_le.1 enough
      have mid := ihOne one here
      rw [List.foldl_append, ihTwo two (by omega), mid, Phrase.net, Int.add_assoc]
  | altFirst _ ih =>
      simp only [Phrase.isBalanced, Bool.and_eq_true] at balanced
      exact ih balanced.1.1 (Int.max_le.1 enough).1
  | altSecond _ ih =>
      simp only [Phrase.isBalanced, Bool.and_eq_true, beq_iff_eq] at balanced
      rw [ih balanced.1.2 (Int.max_le.1 enough).2, ← balanced.2]
      rfl
  | optSome _ ih =>
      simp only [Phrase.isBalanced, Bool.and_eq_true, beq_iff_eq] at balanced
      rw [ih balanced.1 enough, balanced.2]
      rfl
  | againMore _ _ ihOne ihMore =>
      have parts := balanced
      simp only [Phrase.isBalanced, Bool.and_eq_true, beq_iff_eq] at parts
      have mid := ihOne parts.1 enough
      rw [parts.2, Int.add_zero] at mid
      rw [List.foldl_append, ihMore balanced (mid ▸ enough), mid]

/-! ## Texts -/

/-- Behind the text, `count` more brackets are open than before it. -/
def Deepens (text : List Char) (count : Nat) : Prop :=
  ∀ depth, text.foldl Nesting.step ⟨none, depth⟩ = ⟨none, depth + count⟩

theorem Deepens.append {one two : Nat} (first : Deepens text one) (second : Deepens more two) :
    Deepens (text ++ more) (one + two) := by
  intro depth
  rw [List.foldl_append, first, second, Nat.add_assoc]

theorem Passes.deepens (passes : Passes none text none) : Deepens text 0 :=
  passes.foldl_eq

theorem deepens_blanks {blanks : List Char} (blank : ∀ c ∈ blanks, isBlank c = true) :
    Deepens blanks 0 :=
  Passes.deepens (.of_forall fun c among => passes_blank (blank c among))

theorem deepens_bracket : Deepens ['('] 1 :=
  fun _ => rfl

theorem foldl_step_token {token : List Char}
    (kind : token = ['('] ∨ token = [')'] ∨ Passes none token none) (depth : Nat) :
    token.foldl Nesting.step ⟨none, depth⟩ = ⟨none, depthAfter depth token⟩ := by
  by_cases opens : token = ['(']
  · subst opens
    rfl
  · by_cases closes : token = [')']
    · subst closes
      rfl
    · rw [depthAfter, if_neg opens, if_neg closes]
      exact ((kind.resolve_left opens).resolve_left closes).foldl_eq depth

/-- The pass over the characters counts the brackets among the tokens. -/
theorem foldl_step_laid (laid : Laid tokens text)
    (kinds : ∀ token ∈ tokens, token = ['('] ∨ token = [')'] ∨ Passes none token none)
    (depth : Nat) :
    text.foldl Nesting.step ⟨none, depth⟩ = ⟨none, tokens.foldl depthAfter depth⟩ := by
  induction laid generalizing depth with
  | nil => rfl
  | blank blank _ ih =>
      obtain ⟨_, step, rfl⟩ := passes_blank blank
      rw [List.foldl_cons, step, ih kinds]
  | token token _ ih =>
      obtain ⟨kind, others⟩ := List.forall_mem_cons.1 kinds
      rw [List.foldl_append, foldl_step_token kind, List.foldl_cons, ih others]

def Phrase.isLevel (phrase : Phrase) : Bool :=
  phrase.isLexed && phrase.isPunctuated && phrase.isBalanced && phrase.net == 0
    && decide (phrase.dip ≤ 0)

/-- What is described closes all that it opens if the phrase does. -/
theorem Derives.deepens_of_isLevel {phrase : Phrase} {offset : Nat} {nodes : List Node}
    (derived : Derives phrase offset text nodes) (level : phrase.isLevel = true) :
    Deepens text 0 := by
  simp only [Phrase.isLevel, Bool.and_eq_true, beq_iff_eq, decide_eq_true_eq] at level
  obtain ⟨⟨⟨⟨lexed, punctuated⟩, balanced⟩, net⟩, dip⟩ := level
  intro depth
  obtain ⟨tokens, laid, derivation⟩ := derived.tokens lexed
  have counted := derivation.foldl_depthAfter balanced
    (Int.le_trans dip (Int.natCast_nonneg depth))
  rw [foldl_step_laid laid (derivation.passes punctuated), Nat.add_zero]
  rw [net] at counted
  exact congrArg (Nesting.mk none) (Int.ofNat.inj (counted.trans (Int.add_zero _)))

/-- What a rule describes closes all that it opens. -/
theorem Derives.deepens {rule : Rule} {offset : Nat} {nodes : List Node}
    (derived : Derives (.ref rule) offset text nodes)
    (lexed : (Phrase.ref rule).isLexed = true) : Deepens text 0 := by
  refine derived.deepens_of_isLevel ?_
  rw [Phrase.isLevel, lexed]
  rfl

end Cql.Grammar
