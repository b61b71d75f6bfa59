import Cql.Proofs.Filter.Nesting
import Cql.Proofs.Grammar.Lookahead

/-!
# The nesting of tokens

The pass that bounds the nesting of brackets knows nothing of tokens. It finds the brackets that are
tokens and no others all the same: every token but a bracket leaves the number of open brackets as
it is, and where it has a quotation mark, it has the closing one too.
-/

namespace Cql.Grammar

open Cql.Filter

theorem overdeepFrom_step {limit offset : Nat} {before after : Nesting} {c : Char}
    {rest : List Char} (step : before.step c = after) (bound : before.depth ≤ limit)
    (bound' : after.depth ≤ limit) :
    overdeepFrom limit before offset (c :: rest)
      = overdeepFrom limit after (offset + c.utf8Size) rest := by
  rw [overdeepFrom_cons bound, step, if_neg (Nat.not_lt.2 bound')]

/-- The text leads from the one open quotation mark to the other, or to none, with no bracket
counted on the way. -/
def Passes : Option Char → List Char → Option Char → Prop
  | before, [], after => before = after
  | before, c :: cs, after =>
      ∃ mid, (∀ depth, Nesting.step ⟨before, depth⟩ c = ⟨mid, depth⟩) ∧ Passes mid cs after

namespace Passes

variable {before mid after : Option Char} {text more : List Char} {mark : Char}

theorem nil (quote : Option Char) : Passes quote [] quote :=
  rfl

theorem append (one : Passes before text mid) (two : Passes mid more after) :
    Passes before (text ++ more) after := by
  induction text generalizing before with
  | nil =>
      cases one
      exact two
  | cons c cs ih =>
      obtain ⟨next, step, rest⟩ := one
      exact ⟨next, step, ih rest⟩

theorem single {c : Char} (step : ∀ depth, Nesting.step ⟨before, depth⟩ c = ⟨after, depth⟩) :
    Passes before [c] after :=
  ⟨after, step, rfl⟩

/-- A text that passes leaves the depth as it is. -/
theorem foldl_eq (passes : Passes before text after) (depth : Nat) :
    text.foldl Nesting.step ⟨before, depth⟩ = ⟨after, depth⟩ := by
  induction text generalizing before with
  | nil =>
      cases passes
      rfl
  | cons c cs ih =>
      obtain ⟨mid, step, rest⟩ := passes
      rw [List.foldl_cons, step, ih rest]

/-- No bracket of a text that passes nests too deep. -/
theorem overdeepFrom_eq (passes : Passes before text after) {limit depth : Nat}
    (bound : depth ≤ limit) (offset : Nat) (rest : List Char) :
    ∃ offset', overdeepFrom limit ⟨before, depth⟩ offset (text ++ rest) =
      overdeepFrom limit ⟨after, depth⟩ offset' rest := by
  induction text generalizing before offset with
  | nil =>
      cases passes
      exact ⟨offset, rfl⟩
  | cons c cs ih =>
      obtain ⟨mid, step, others⟩ := passes
      obtain ⟨offset', same⟩ := ih others (offset + c.utf8Size)
      exact ⟨offset', (overdeepFrom_step (step depth) bound bound).trans same⟩

/-- A text passes as its characters do. -/
theorem of_forall {quote : Option Char} (each : ∀ c ∈ text, Passes quote [c] quote) :
    Passes quote text quote := by
  induction text with
  | nil => exact nil quote
  | cons c cs ih =>
      obtain ⟨first, others⟩ := List.forall_mem_cons.1 each
      exact first.append (ih others)

theorem opening (marks : mark ∈ ['\'', '"']) : Passes none [mark] (some mark) := by
  refine single fun depth => ?_
  simp only [List.mem_cons, List.not_mem_nil, or_false] at marks
  rcases marks with rfl | rfl <;> rfl

theorem closing (mark : Char) : Passes (some mark) [mark] none :=
  single fun _ => Nesting.step_closing

theorem inside {c : Char} (other : c ≠ mark) : Passes (some mark) [c] (some mark) :=
  single fun _ => Nesting.step_inside other

theorem outside {c : Char} (other : c ∉ ['\'', '"', '(', ')']) : Passes none [c] none :=
  single fun _ => Nesting.step_outside other

end Passes

/-! ## Patterns -/

/-- Whatever the pattern takes leads from the one open quotation mark to the other. -/
def Pattern.Moves (before : Option Char) (pattern : Pattern) (after : Option Char) : Prop :=
  ∀ ⦃cs taken left⦄, pattern.scan cs = some (taken, left) → Passes before taken after

namespace Pattern.Moves

variable {before mid after : Option Char} {first second inner : Pattern} {mark : Char}
  {word : String}

theorem seq (one : first.Moves before mid) (two : second.Moves mid after) :
    (first ++ second).Moves before after := by
  intro cs taken left found
  change Pattern.scan (.seq first second) cs = _ at found
  simp only [scan] at found
  split at found
  · cases found
  · next start =>
      obtain ⟨pair, finish, same⟩ := Option.map_eq_some_iff.1 found
      cases same
      exact (one start).append (two finish)

theorem alt (one : first.Moves before after) (two : second.Moves before after) :
    (first <|> second).Moves before after := by
  intro cs taken left found
  change Pattern.scan (.alt first second) cs = _ at found
  simp only [scan] at found
  split at found
  · exact two found
  · next start =>
      cases found
      exact one start

theorem many (one : inner.Moves before before) : (Pattern.many inner).Moves before before := by
  intro cs taken left found
  rw [scan, Option.some.injEq] at found
  obtain ⟨rounds, each, whole⟩ := exists_rounds_of_scanRounds (fun _ _ _ => @one _ _ _) cs cs
  rw [found] at whole
  rw [show taken = rounds.flatten from whole]
  clear found whole
  induction rounds with
  | nil => exact .nil before
  | cons round rounds ih =>
      obtain ⟨front, others⟩ := List.forall_mem_cons.1 each
      exact front.append (ih others)

theorem outside (plain : inner.avoids ['\'', '"', '(', ')'] = true) : inner.Moves none none :=
  fun _ _ _ found => .of_forall fun _ among => .outside fun special =>
    not_mem_of_takes (inner.takes_of_scan found) plain _ among special

theorem inside (plain : inner.avoids [mark] = true) : inner.Moves (some mark) (some mark) :=
  fun _ _ _ found => .of_forall fun _ among => .inside fun same =>
    not_mem_of_takes (inner.takes_of_scan found) plain _ among (List.mem_singleton.2 same)

theorem opening (single : word.toList = [mark]) (marks : mark ∈ ['\'', '"']) :
    (Pattern.literal word).Moves none (some mark) := by
  intro cs taken left found
  rw [show taken = word.toList from takes_of_scan _ found, single]
  exact .opening marks

theorem closing (single : word.toList = [mark]) :
    (Pattern.literal word).Moves (some mark) none := by
  intro cs taken left found
  rw [show taken = word.toList from takes_of_scan _ found, single]
  exact .closing mark

/-- A doubled mark closes the quotation and opens it again. -/
theorem quotedChar (single : word.toList = [mark]) (marks : mark ∈ ['\'', '"']) :
    (Pattern.quotedChar word).Moves (some mark) (some mark) := by
  intro cs taken left found
  cases cs with
  | nil =>
      rw [scan_nil (mayBeEmpty_quotedChar single)] at found
      cases found
  | cons c cs =>
      rw [scan_quotedChar single] at found
      split at found
      · split at found
        · cases found
          exact (Passes.closing mark).append (.opening marks)
        · cases found
      · next other =>
          cases found
          exact .inside other

/-- A text between apostrophes closes the quotation that it opens. -/
theorem characterLiteral : Pattern.characterLiteral.Moves none none :=
  ((Moves.opening rfl (by decide)).seq (.many (.quotedChar rfl (by decide)))).seq (.closing rfl)

theorem quotedIdentifier : Pattern.quotedIdentifier.Moves none none := by
  have round : (Pattern.quotedChar "\"").Moves (some '"') (some '"') := .quotedChar rfl (by decide)
  exact ((Moves.opening rfl (by decide)).seq (round.seq round.many)).seq (.closing rfl)

end Pattern.Moves

/-! ## Tokens -/

def quotedRules : List Rule :=
  [.characterLiteral, .identifier, .dateString, .timestampString, .dotDotString]

theorem avoids_definition (rule : Rule) :
    (quotedRules.contains rule || match definition rule with
      | .token pattern => pattern.avoids ['\'', '"', '(', ')']
      | _ => true) = true := by
  cases rule with
  | keyword word => cases word <;> rfl
  | _ => rfl

/-- Each token closes the quotations that it opens, and has no bracket outside of them. -/
theorem passes_of_reads {rule : Rule} {text : List Char}
    (reads : (Terminal.token rule).Reads text) : Passes none text none := by
  obtain ⟨_, pattern, defined, whole⟩ := reads
  suffices moves : pattern.Moves none none from moves whole
  have known := avoids_definition rule
  rw [defined] at known
  rcases Bool.or_eq_true_iff.1 known with quoted | plain
  · have opening : (Pattern.literal "'").Moves none (some '\'') := .opening rfl (by decide)
    have closing : (Pattern.literal "'").Moves (some '\'') none := .closing rfl
    simp only [quotedRules, List.contains_iff_mem, List.mem_cons, List.not_mem_nil, or_false]
      at quoted
    rcases quoted with rfl | rfl | rfl | rfl | rfl <;> cases defined
    · exact .characterLiteral
    · exact Pattern.Moves.quotedIdentifier.alt (.outside rfl)
    · exact (opening.seq (.inside (by decide))).seq closing
    · exact (((opening.seq (.inside (by decide))).seq (.inside (by decide))).seq
        (.inside (by decide))).seq closing
    · intro cs taken left found
      have dots : Passes (some '\'') ['.', '.'] (some '\'') :=
        .of_forall fun c among => .inside (by rintro rfl; exact absurd among (by decide))
      rw [show taken = ['\''] ++ ['.', '.'] ++ ['\''] from Pattern.takes_of_scan _ found]
      exact ((Passes.opening (by decide)).append dots).append (.closing _)
  · exact .outside plain

/-! ## Rows of tokens -/

def depthAfter (depth : Nat) (token : List Char) : Nat :=
  if token = ['('] then depth + 1 else if token = [')'] then depth - 1 else depth

/-- How many brackets are open at most among the tokens. -/
def deepest (depth : Nat) : List (List Char) → Nat
  | [] => depth
  | token :: tokens => max depth (deepest (depthAfter depth token) tokens)

theorem le_deepest (depth : Nat) (tokens : List (List Char)) : depth ≤ deepest depth tokens := by
  cases tokens with
  | nil => exact Nat.le_refl depth
  | cons token tokens => exact Nat.le_max_left _ _

/-- A token that is a bracket or passes is counted as such. -/
theorem overdeepFrom_token {limit depth offset : Nat} {token rest : List Char}
    (kind : token = ['('] ∨ token = [')'] ∨ Passes none token none) (bound : depth ≤ limit)
    (bound' : depthAfter depth token ≤ limit) :
    ∃ offset', overdeepFrom limit ⟨none, depth⟩ offset (token ++ rest) =
      overdeepFrom limit ⟨none, depthAfter depth token⟩ offset' rest := by
  by_cases opens : token = ['(']
  · subst opens
    exact ⟨_, overdeepFrom_step rfl bound bound'⟩
  · by_cases closes : token = [')']
    · subst closes
      exact ⟨_, overdeepFrom_step rfl bound bound'⟩
    · rw [depthAfter, if_neg opens, if_neg closes]
      exact ((kind.resolve_left opens).resolve_left closes).overdeepFrom_eq bound offset rest

/-- Tokens that do not nest too deep are not found to do so. -/
theorem overdeepFrom_spell {limit depth offset : Nat} {tokens : List (List Char)}
    (kinds : ∀ token ∈ tokens, token = ['('] ∨ token = [')'] ∨ Passes none token none)
    (shallow : deepest depth tokens ≤ limit) :
    overdeepFrom limit ⟨none, depth⟩ offset (spell tokens) = none := by
  induction tokens generalizing depth offset with
  | nil => rfl
  | cons token tokens ih =>
      obtain ⟨kind, others⟩ := List.forall_mem_cons.1 kinds
      obtain ⟨here, later⟩ := Nat.max_le.1 shallow
      have level := Nat.le_trans (le_deepest _ _) later
      rw [spell_cons]
      obtain ⟨offset', token'⟩ := overdeepFrom_token kind here level
      rw [token']
      cases tokens with
      | nil => rfl
      | cons next tokens =>
          have blank : Passes none [' '] none := .outside (by decide)
          obtain ⟨offset'', skipped⟩ := blank.overdeepFrom_eq level offset' (spell (next :: tokens))
          exact skipped.trans (ih others later)

def Phrase.isPunctuated : Phrase → Bool
  | .symbol mark => ['(', ')', ','].contains mark
  | .seq first second | .join first second | .alt first second =>
      first.isPunctuated && second.isPunctuated
  | .opt inner | .again inner => inner.isPunctuated
  | .start | .text _ | .ref _ => true

theorem isPunctuated_definition (rule : Rule) :
    (match definition rule with
      | .phrase body => body.isPunctuated
      | _ => true) = true := by
  cases rule <;> rfl

theorem Derivation.passes {phrase : Phrase} {tokens : List (List Char)} {outlines : List Outline}
    (derived : Derivation phrase tokens outlines) (marked : phrase.isPunctuated = true) :
    ∀ token ∈ tokens, token = ['('] ∨ token = [')'] ∨ Passes none token none := by
  induction derived with
  | start | ending | optNone _ | againNone _ => exact List.forall_mem_nil _
  | symbol mark =>
      rw [List.forall_mem_singleton]
      rw [Phrase.isPunctuated, List.contains_iff_mem] at marked
      simp only [List.mem_cons, List.not_mem_nil, or_false] at marked
      rcases marked with rfl | rfl | rfl
      · exact .inl rfl
      · exact .inr (.inl rfl)
      · exact .inr (.inr (.outside (by decide)))
  | token reads =>
      rw [List.forall_mem_singleton]
      exact .inr (.inr (passes_of_reads reads))
  | @phrase rule body _ _ defined _ ih =>
      have known := isPunctuated_definition rule
      rw [defined] at known
      exact ih known
  | seq _ _ ihOne ihTwo | join _ _ ihOne ihTwo =>
      obtain ⟨one, two⟩ := Bool.and_eq_true_iff.1 marked
      exact List.forall_mem_append.2 ⟨ihOne one, ihTwo two⟩
  | altFirst _ ih => exact ih (Bool.and_eq_true_iff.1 marked).1
  | altSecond _ ih => exact ih (Bool.and_eq_true_iff.1 marked).2
  | optSome _ ih => exact ih marked
  | againMore _ _ ihOne ihMore => exact List.forall_mem_append.2 ⟨ihOne marked, ihMore marked⟩

/-- Tokens of a rule that nest within the limit are not found to nest deeper. -/
theorem firstOverdeep_spell {rule : Rule} {tokens : List (List Char)} {outlines : List Outline}
    (derived : Derivation (.ref rule) tokens outlines) {limit : Nat}
    (shallow : deepest 0 tokens ≤ limit) : firstOverdeep (spell tokens) limit = none :=
  overdeepFrom_spell (derived.passes rfl) shallow

end Cql.Grammar
