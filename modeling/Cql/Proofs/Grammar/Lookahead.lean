import Cql.Proofs.Grammar.Recognition
import Cql.Proofs.Grammar.TokenKind

/-!
# The grammar over tokens and one token of lookahead

Read as a plain grammar over tokens, a phrase describes rows of tokens, and every choice in it is
free. For most choices the first token decides: the alternatives that it does not belong to fail at
it. Whether they do, with which tokens a phrase may begin, and which tokens may follow without being
taken for a part of it is computed here from the rules.
-/

namespace Cql.Grammar

/-! ## Tokens in a row -/

def spell : List (List Char) → List Char
  | [] => []
  | [token] => token
  | token :: tokens => token ++ ' ' :: spell tokens

/-- What follows a token: nothing, or a blank and the other tokens. -/
def gap : List (List Char) → List Char
  | [] => []
  | tokens => ' ' :: spell tokens

theorem spell_cons (token : List Char) (tokens : List (List Char)) :
    spell (token :: tokens) = token ++ gap tokens := by
  cases tokens with
  | nil => rw [spell, gap, List.append_nil]
  | cons next tokens => rw [spell, gap] <;> nofun

theorem ended_gap (tokens : List (List Char)) : Ended (gap tokens) := by
  cases tokens with
  | nil =>
      intro c next
      cases next
  | cons token tokens =>
      intro c next
      cases next
      decide

/-- A row of tokens begins with a token of the given kind, or there are none. -/
inductive Heads : List (List Char) → Option Terminal → Prop where
  | ended : Heads [] none
  | begun {terminal : Terminal} {token : List Char} {tokens : List (List Char)}
      (reads : terminal.Reads token) (visible : Look.blank ∉ terminal.looks) :
      Heads (token :: tokens) (some terminal)

variable {tokens rest : List (List Char)} {next : Option Terminal}

theorem isBlank_iff {c : Char} : look c = .blank ↔ isBlank c = true := by
  cases blank : isBlank c with
  | true => simp [look, blank]
  | false =>
      simp only [look, blank, Bool.false_eq_true, if_false]
      repeat' split
      all_goals simp

/-- Tokens do not begin with a blank. -/
theorem Heads.dropWhile_spell (heads : Heads tokens next) :
    (spell tokens).dropWhile isBlank = spell tokens := by
  cases heads with
  | ended => rfl
  | begun reads visible =>
      obtain ⟨c, cs, rfl, looks⟩ := reads.look
      rw [spell_cons, List.cons_append]
      refine List.dropWhile_cons_of_neg fun blank => ?_
      rw [isBlank_iff.2 blank] at looks
      exact visible looks

theorem Heads.dropWhile_gap (heads : Heads tokens next) :
    (gap tokens).dropWhile isBlank = spell tokens := by
  cases tokens with
  | nil => rfl
  | cons token tokens => exact heads.dropWhile_spell

/-! ## The grammar over tokens -/

/-- The phrase, read as a plain grammar over tokens, describes a row of tokens and is made of the
given outlines. The end of the text is no token. Fragments are parts of tokens and describe none. -/
inductive Derivation : Phrase → List (List Char) → List Outline → Prop where
  | start : Derivation .start [] []
  | ending : Derivation (.ref .endOfInput) [] [.leaf .endOfInput ""]
  | symbol (mark : Char) : Derivation (.symbol mark) [[mark]] []
  | token {rule : Rule} {text : List Char} (reads : (Terminal.token rule).Reads text) :
      Derivation (.ref rule) [text] [.leaf rule (String.ofList text)]
  | phrase {rule : Rule} {body : Phrase} {tokens : List (List Char)} {outlines : List Outline}
      (defined : definition rule = .phrase body) (inner : Derivation body tokens outlines) :
      Derivation (.ref rule) tokens [.branch rule outlines]
  | seq {first second : Phrase} {tokens tokens' : List (List Char)}
      {outlines outlines' : List Outline} (one : Derivation first tokens outlines)
      (two : Derivation second tokens' outlines') :
      Derivation (.seq first second) (tokens ++ tokens') (outlines ++ outlines')
  | join {first second : Phrase} {tokens tokens' : List (List Char)}
      {outlines outlines' : List Outline} (one : Derivation first tokens outlines)
      (two : Derivation second tokens' outlines') :
      Derivation (.join first second) (tokens ++ tokens') (outlines ++ outlines')
  | altFirst {first second : Phrase} {tokens : List (List Char)} {outlines : List Outline}
      (one : Derivation first tokens outlines) : Derivation (.alt first second) tokens outlines
  | altSecond {first second : Phrase} {tokens : List (List Char)} {outlines : List Outline}
      (two : Derivation second tokens outlines) : Derivation (.alt first second) tokens outlines
  | optNone (inner : Phrase) : Derivation (.opt inner) [] []
  | optSome {inner : Phrase} {tokens : List (List Char)} {outlines : List Outline}
      (one : Derivation inner tokens outlines) : Derivation (.opt inner) tokens outlines
  | againNone (inner : Phrase) : Derivation (.again inner) [] []
  | againMore {inner : Phrase} {tokens tokens' : List (List Char)}
      {outlines outlines' : List Outline} (one : Derivation inner tokens outlines)
      (more : Derivation (.again inner) tokens' outlines') :
      Derivation (.again inner) (tokens ++ tokens') (outlines ++ outlines')

/-- What is derived from a phrase that may not be empty has a token. -/
theorem Derivation.ne_nil {phrase : Phrase} {outlines : List Outline}
    (derived : Derivation phrase tokens outlines) (visible : phrase.mayBeEmpty = false) :
    tokens ≠ [] := by
  induction derived with
  | start | ending => cases visible
  | symbol _ | token _ => exact List.cons_ne_nil _ _
  | @phrase rule body tokens outlines defined inner ih =>
      have known := mayBeEmpty_definition rule
      rw [defined] at known
      exact ih (known.trans visible)
  | seq one two ihOne ihTwo | join one two ihOne ihTwo =>
      rcases Bool.and_eq_false_iff.1 visible with left | right
      · exact List.append_ne_nil_of_left_ne_nil (ihOne left) _
      · exact List.append_ne_nil_of_right_ne_nil _ (ihTwo right)
  | altFirst one ih => exact ih (Bool.or_eq_false_iff.1 visible).1
  | altSecond two ih => exact ih (Bool.or_eq_false_iff.1 visible).2
  | optNone _ | optSome _ _ | againNone _ | againMore _ _ _ _ => cases visible

/-! ## First tokens -/

def Phrase.first (known : Rule → List Terminal) : Phrase → List Terminal
  | .symbol mark => [.symbol mark]
  | .ref rule => known rule
  | .seq first second | .join first second =>
      first.first known ++ if first.mayBeEmpty then second.first known else []
  | .alt first second => first.first known ++ second.first known
  | .opt inner | .again inner => inner.first known
  | .start | .text _ => []

def firstWithin : Nat → Rule → List Terminal
  | 0, _ => []
  | depth + 1, rule =>
      match definition rule with
      | .token _ => [.token rule]
      | .phrase body | .fragment body => body.first (firstWithin depth)

/-- How many rules down it is looked for tokens. -/
def lookDepth : Nat := 12

def ruleFirst (rule : Rule) : List Terminal :=
  firstWithin lookDepth rule

theorem ruleFirst_definition (rule : Rule) :
    (match definition rule with
      | .token _ => ruleFirst rule == [.token rule]
      | .phrase body => ruleFirst rule == body.first ruleFirst
      | .fragment _ => true) = true := by
  cases rule with
  | keyword word => cases word <;> rfl
  | _ => rfl

/-! ## What the next token decides -/

inductive Verdict where
  /-- The phrase fails at the token. -/
  | fails
  /-- The phrase matches without taking the token. -/
  | skips
  /-- The token alone does not decide. -/
  | unclear
  deriving DecidableEq, Repr

/-- Whether the kind fails at the next token. At the end of the text all kinds do. -/
def Terminal.isRefused (terminal : Terminal) : Option Terminal → Bool
  | none => terminal != .token .endOfInput
  | some next => terminal.isApart next

/-- What the next token says about a phrase, given the rules that fail at it. -/
def Phrase.verdict (refused : Rule → Bool) (next : Option Terminal) : Phrase → Verdict
  | .symbol mark => if (Terminal.symbol mark).isRefused next then .fails else .unclear
  | .ref rule => if refused rule then .fails else .unclear
  | .seq first second | .join first second =>
      match first.verdict refused next with
      | .fails => .fails
      | .skips => second.verdict refused next
      | .unclear => .unclear
  | .alt first second =>
      match first.verdict refused next with
      | .fails => second.verdict refused next
      | other => other
  | .opt inner | .again inner =>
      match inner.verdict refused next with
      | .fails => .skips
      | _ => .unclear
  | .start | .text _ => .unclear

def refusesWithin (next : Option Terminal) : Nat → Rule → Bool
  | 0, _ => false
  | depth + 1, rule =>
      match definition rule with
      | .token _ => (Terminal.token rule).isRefused next
      | .phrase body => body.verdict (refusesWithin next depth) next == .fails
      | .fragment _ => false

def Phrase.isRefused (phrase : Phrase) (next : Option Terminal) : Bool :=
  phrase.verdict (refusesWithin next lookDepth) next == .fails

theorem Terminal.refuses_of_isRefused {terminal : Terminal}
    (refused : terminal.isRefused next = true) (heads : Heads tokens next) :
    terminal.Refuses (spell tokens) := by
  cases heads with
  | ended =>
      cases terminal with
      | symbol mark => exact fun rest => nofun
      | token rule =>
          intro pattern defined
          refine Pattern.scan_nil (begins_of_token defined ?_).2
          rintro rfl
          cases refused
  | begun reads visible =>
      rw [spell_cons]
      exact refuses_of_isApart refused reads (ended_gap _)

/-- The text shows its next token: it does not begin with a blank, and every kind that is refused
for the sake of the token is not there. -/
structure Shows (cs : List Char) (next : Option Terminal) : Prop where
  settled : cs.dropWhile isBlank = cs
  refuses : ∀ {terminal : Terminal}, terminal.isRefused next = true → terminal.Refuses cs

theorem Heads.shows (heads : Heads tokens next) : Shows (spell tokens) next where
  settled := heads.dropWhile_spell
  refuses refused := Terminal.refuses_of_isRefused refused heads

/-- A mark shows itself, whatever follows it. -/
theorem shows_symbol {mark : Char} (visible : isBlank mark = false) (cs : List Char) :
    Shows (mark :: cs) (some (.symbol mark)) where
  settled := List.dropWhile_cons_of_neg (Bool.eq_false_iff.1 visible)
  refuses := by
    intro terminal refused
    refine Terminal.refuses_of_look fun same => ?_
    rcases Bool.or_eq_true_iff.1 refused with differ | rules
    · have own : look mark ∈ (Terminal.symbol mark).looks := List.mem_singleton_self _
      have differs := List.all_eq_true.1 differ _ same
      rw [List.contains_iff_mem.2 own] at differs
      cases differs
    · cases terminal <;> cases rules

variable {cs : List Char}

theorem Phrase.verdict_sound {refused : Rule → Bool} (shows : Shows cs next)
    (known : ∀ rule, refused rule = true → (ref rule).Fails cs) (phrase : Phrase) :
    (phrase.verdict refused next = .fails → phrase.Fails cs) ∧
      (phrase.verdict refused next = .skips → phrase.Gives cs [] cs) := by
  have settled := shows.settled
  induction phrase with
  | start | text _ => exact ⟨nofun, nofun⟩
  | symbol mark =>
      simp only [verdict]
      split
      · next apart =>
          exact ⟨fun _ => fails_symbol (shows.refuses apart), nofun⟩
      · exact ⟨nofun, nofun⟩
  | ref rule =>
      simp only [verdict]
      split
      · next fails => exact ⟨fun _ => known rule fails, nofun⟩
      · exact ⟨nofun, nofun⟩
  | seq first second ihFirst ihSecond =>
      simp only [verdict]
      split
      · next fails => exact ⟨fun _ => (ihFirst.1 fails).seq_first, nofun⟩
      · next skips =>
          have one := ihFirst.2 skips
          refine ⟨fun fails => .seq_second one ?_, fun skips => ?_⟩
          · rw [settled]
            exact ihSecond.1 fails
          · refine one.seq ?_
            rw [settled]
            exact ihSecond.2 skips
      · exact ⟨nofun, nofun⟩
  | join first second ihFirst ihSecond =>
      simp only [verdict]
      split
      · next fails => exact ⟨fun _ => (ihFirst.1 fails).join_first, nofun⟩
      · next skips =>
          exact ⟨fun fails => .join_second (ihFirst.2 skips) (ihSecond.1 fails),
            fun skips' => (ihFirst.2 skips).join (ihSecond.2 skips')⟩
      · exact ⟨nofun, nofun⟩
  | alt first second ihFirst ihSecond =>
      simp only [verdict]
      split
      · next fails =>
          exact ⟨fun fails' => (ihFirst.1 fails).alt (ihSecond.1 fails'),
            fun skips => (ihSecond.2 skips).alt_second (ihFirst.1 fails)⟩
      · next other =>
          exact ⟨fun fails => absurd fails other, fun skips => (ihFirst.2 skips).alt_first⟩
  | opt inner ih =>
      simp only [verdict]
      split
      · next fails => exact ⟨nofun, fun _ => (ih.1 fails).opt⟩
      · exact ⟨nofun, nofun⟩
  | again inner ih =>
      simp only [verdict]
      split
      · next fails =>
          refine ⟨nofun, fun _ => Fails.again ?_⟩
          rw [settled]
          exact ih.1 fails
      · exact ⟨nofun, nofun⟩

theorem fails_of_refusesWithin (shows : Shows cs next) {depth : Nat} {rule : Rule}
    (refused : refusesWithin next depth rule = true) : (Phrase.ref rule).Fails cs := by
  induction depth generalizing rule with
  | zero => cases refused
  | succ depth ih =>
      rw [refusesWithin] at refused
      split at refused
      · next pattern defined =>
          exact Phrase.fails_token defined (shows.refuses refused pattern defined)
      · next body defined =>
          exact ((body.verdict_sound shows fun _ => ih).1 (beq_iff_eq.1 refused)).phrase defined
      · cases refused

/-- A phrase fails at a text that shows a token that it refuses. -/
theorem Shows.fails (shows : Shows cs next) {phrase : Phrase}
    (refused : phrase.isRefused next = true) : phrase.Fails cs :=
  (phrase.verdict_sound shows fun _ => fails_of_refusesWithin shows).1 (beq_iff_eq.1 refused)

theorem Phrase.fails_of_isRefused {phrase : Phrase} (refused : phrase.isRefused next = true)
    (heads : Heads tokens next) : phrase.Fails (spell tokens) :=
  heads.shows.fails refused

end Cql.Grammar
