import Cql.Proofs.Grammar.Lookahead

/-!
# Ordered choice loses nothing

Alternatives are tried in order, and the first one that stands is taken for good. Nothing is lost by
that when for each alternative those before it fail at its tokens. Mostly they fail at the first
one. The few pairs for which they do not are listed as contests, which may hang on what follows the
alternative. Whether all choices of a phrase are decided in this way, and whether an optional or
repeated part can be taken for longer than it is, is checked for all rules. This module derives from
the checks that phrases recognise the tokens they describe, one kind of phrase at a time.
-/

namespace Cql.Grammar

open Phrase

/-! ## Choices -/

def Phrase.picks : Phrase → List (List Phrase × Phrase)
  | .alt first second =>
      first.picks ++ second.picks.map fun pick => (first :: pick.1, pick.2)
  | phrase => [([], phrase)]

/-- Two alternatives of which the earlier one may get beyond the first token of the later one. It
fails all the same, unless one of the given phrases follows. -/
structure Contest where
  earlier : Phrase
  chosen : Phrase
  tails : List Phrase
  deriving DecidableEq

def sixValues : Phrase :=
  comma Rule.minElev (comma Rule.eastBoundLon (comma Rule.northBoundLat Rule.maxElev))

def fourValues : Phrase :=
  comma Rule.eastBoundLon Rule.northBoundLat

def comparers : List Phrase :=
  [.ref .comparisonOperator, kw .not, kw .like, kw .between, kw .inList, kw .is]

def comparisonForms : List Rule :=
  [.binaryComparisonPredicate, .isLikePredicate, .isBetweenPredicate, .isInListPredicate,
   .isNullPredicate]

/-- Every pair of alternatives that the first token does not decide between. -/
def contests : List Contest :=
  [⟨.ref .function, .ref .propertyName, [.ref .argumentList]⟩,
   ⟨sixValues, fourValues, [.symbol ',']⟩,
   ⟨.ref .predicate, .ref .booleanLiteral, .ref .argumentList :: comparers⟩,
   ⟨.ref .predicate, .ref .function, .ref .argumentList :: comparers⟩]
  ++ comparisonForms.flatMap fun later =>
      (comparisonForms.takeWhile (· != later)).map fun earlier => ⟨.ref earlier, .ref later, []⟩

def contest? (earlier chosen : Phrase) : Option Contest :=
  contests.find? fun contest => contest.earlier == earlier && contest.chosen == chosen

theorem visible_looksOf (rule : Rule) : Look.blank ∉ looksOf rule := by
  cases rule with
  | keyword word => nofun
  | _ => decide

/-- Whether a phrase ends where the next token begins: none of its parts may be taken for longer
than it is, given the rules that end there. -/
def Phrase.stops (known : Rule → Bool) (next : Option Terminal) : Phrase → Bool
  | .start | .symbol _ => true
  | .text _ => false
  | .ref rule => known rule
  | .seq first second | .join first second =>
      second.stops known next && (!second.mayBeEmpty || first.stops known next)
  | .alt first second =>
      first.stops known next && second.stops known next &&
        (Phrase.alt first second).picks.all fun pick => pick.1.all fun earlier =>
          (contest? earlier pick.2).all fun contest => contest.tails.all (·.isRefused next)
  | .opt inner | .again inner => inner.stops known next && inner.isRefused next

def stopsWithin (next : Option Terminal) : Nat → Rule → Bool
  | 0, _ => false
  | depth + 1, rule =>
      match definition rule with
      | .token _ => true
      | .phrase body => body.stops (stopsWithin next depth) next
      | .fragment _ => false

def Phrase.repeats : Phrase → Bool
  | .again _ => true
  | _ => false

/-- Whether each choice in the phrase is decided by the next token or by a contest, and each part
ends where the next one begins. -/
def Phrase.isDecided : Phrase → Bool
  | .start | .text _ => false
  | .symbol mark => look mark != .blank
  | .ref rule => rule != .cqlFilter && rule != .endOfInput
  | .seq first second =>
      first.isDecided && second.isDecided &&
        (second.first ruleFirst).all fun next =>
          first.stops (stopsWithin (some next) lookDepth) (some next)
  | .join first second =>
      first.isDecided && second.isDecided && second.repeats &&
        (second.first ruleFirst).all fun next =>
          first.stops (stopsWithin (some next) lookDepth) (some next)
  | .alt first second =>
      first.isDecided && second.isDecided &&
        (Phrase.alt first second).picks.all fun pick => !pick.2.mayBeEmpty &&
          pick.1.all fun earlier => (contest? earlier pick.2).isSome ||
            (pick.2.first ruleFirst).all fun next => earlier.isRefused (some next)
  | .opt inner => inner.isDecided && !inner.mayBeEmpty
  | .again inner =>
      inner.isDecided && !inner.mayBeEmpty &&
        (inner.first ruleFirst).all fun next =>
          inner.stops (stopsWithin (some next) lookDepth) (some next)

theorem isDecided_definition (rule : Rule) :
    (rule == .cqlFilter || match definition rule with
      | .phrase body => body.isDecided
      | _ => true) = true := by
  cases rule <;> rfl

theorem isDecided_of_phrase {rule : Rule} {body : Phrase} (defined : definition rule = .phrase body)
    (inner : rule ≠ .cqlFilter) : body.isDecided = true := by
  have known := isDecided_definition rule
  rwa [defined, beq_false_of_ne inner, Bool.false_or] at known

variable {tokens rest : List (List Char)} {outlines : List Outline} {next : Option Terminal}

/-- Two rows of tokens after each other begin as the first of them does, or as the second if there
is nothing in the first. -/
theorem heads_append {first second : Phrase} {tokens' : List (List Char)}
    (one : ∀ {rest next}, Heads rest next → (tokens = [] ∧ first.mayBeEmpty = true) ∨
      ∃ terminal ∈ first.first ruleFirst, Heads (tokens ++ rest) (some terminal))
    (two : (tokens' = [] ∧ second.mayBeEmpty = true) ∨
      ∃ terminal ∈ second.first ruleFirst, Heads (tokens' ++ rest) (some terminal))
    (heads : Heads rest next) :
    (tokens ++ tokens' = [] ∧ (first.mayBeEmpty && second.mayBeEmpty) = true) ∨
      ∃ terminal ∈ first.first ruleFirst
          ++ (if first.mayBeEmpty then second.first ruleFirst else []),
        Heads (tokens ++ tokens' ++ rest) (some terminal) := by
  rcases two with ⟨rfl, empty'⟩ | ⟨terminal', among', heads'⟩
  · rw [List.append_nil]
    rcases one heads with ⟨rfl, empty⟩ | ⟨terminal, among, front⟩
    · exact .inl ⟨rfl, by rw [empty, empty']; rfl⟩
    · exact .inr ⟨terminal, List.mem_append_left _ among, front⟩
  · rw [List.append_assoc]
    rcases one heads' with ⟨rfl, empty⟩ | ⟨terminal, among, front⟩
    · refine .inr ⟨terminal', List.mem_append_right _ ?_, heads'⟩
      rwa [if_pos empty]
    · exact .inr ⟨terminal, List.mem_append_left _ among, front⟩

/-- Tokens of a phrase begin with a kind that the phrase may begin with. -/
theorem Derivation.heads {phrase : Phrase} (derived : Derivation phrase tokens outlines)
    (decided : phrase.isDecided = true) (heads : Heads rest next) :
    (tokens = [] ∧ phrase.mayBeEmpty = true) ∨
      ∃ terminal ∈ phrase.first ruleFirst, Heads (tokens ++ rest) (some terminal) := by
  induction derived generalizing rest next with
  | start | ending => cases decided
  | symbol mark =>
      refine .inr ⟨.symbol mark, List.mem_singleton_self _, .begun rfl fun blank => ?_⟩
      rw [isDecided, ← List.mem_singleton.1 blank] at decided
      cases decided
  | @token rule text reads =>
      have known := ruleFirst_definition rule
      have whole := reads
      obtain ⟨_, pattern, defined, _⟩ := whole
      rw [defined] at known
      refine .inr ⟨.token rule, ?_, .begun reads (visible_looksOf rule)⟩
      rw [Phrase.first, beq_iff_eq.1 known]
      exact List.mem_singleton_self _
  | @phrase rule body tokens outlines defined inner ih =>
      have known := ruleFirst_definition rule
      have empty := mayBeEmpty_definition rule
      rw [defined] at known empty
      rw [Phrase.first, beq_iff_eq.1 known, Phrase.mayBeEmpty, ← empty]
      exact ih (isDecided_of_phrase defined (by rintro rfl; cases decided)) heads
  | seq one two ihOne ihTwo =>
      simp only [isDecided, Bool.and_eq_true] at decided
      exact heads_append (ihOne decided.1.1) (ihTwo decided.1.2 heads) heads
  | join one two ihOne ihTwo =>
      simp only [isDecided, Bool.and_eq_true] at decided
      exact heads_append (ihOne decided.1.1.1) (ihTwo decided.1.1.2 heads) heads
  | altFirst one ih =>
      simp only [isDecided, Bool.and_eq_true] at decided
      rcases ih decided.1.1 heads with ⟨nothing, empty⟩ | ⟨terminal, among, front⟩
      · exact .inl ⟨nothing, by rw [Phrase.mayBeEmpty, empty, Bool.true_or]⟩
      · exact .inr ⟨terminal, List.mem_append_left _ among, front⟩
  | altSecond two ih =>
      simp only [isDecided, Bool.and_eq_true] at decided
      rcases ih decided.1.2 heads with ⟨nothing, empty⟩ | ⟨terminal, among, front⟩
      · exact .inl ⟨nothing, by rw [Phrase.mayBeEmpty, empty, Bool.or_true]⟩
      · exact .inr ⟨terminal, List.mem_append_right _ among, front⟩
  | optNone _ | againNone _ => exact .inl ⟨rfl, rfl⟩
  | optSome one ih =>
      rw [isDecided, Bool.and_eq_true_iff] at decided
      rcases ih decided.1 heads with ⟨nothing, _⟩ | found
      · exact .inl ⟨nothing, rfl⟩
      · exact .inr found
  | @againMore inner tokens tokens' outlines outlines' one more ihOne ihMore =>
      have whole := decided
      simp only [isDecided, Bool.and_eq_true, Bool.not_eq_true'] at decided
      have nonempty := one.ne_nil decided.1.2
      rcases ihMore whole heads with ⟨rfl, _⟩ | ⟨_, _, heads'⟩
      · rw [List.append_nil]
        exact .inr ((ihOne decided.1.1 heads).resolve_left fun empty => nonempty empty.1)
      · rw [List.append_assoc]
        exact .inr ((ihOne decided.1.1 heads').resolve_left fun empty => nonempty empty.1)

/-- Tokens of a phrase that may not be empty begin with a kind that the phrase may begin with. -/
theorem Derivation.begins {phrase : Phrase} (derived : Derivation phrase tokens outlines)
    (decided : phrase.isDecided = true) (visible : phrase.mayBeEmpty = false)
    (heads : Heads rest next) :
    ∃ terminal ∈ phrase.first ruleFirst, Heads (tokens ++ rest) (some terminal) :=
  (derived.heads decided heads).resolve_left fun empty => derived.ne_nil visible empty.1

/-! ## Recognition of tokens -/

/-- The phrase is entered where tokens begin. A repetition is entered with the blank before them,
which it skips by itself. -/
def Enters (tokens : List (List Char)) (cs : List Char) : Phrase → Prop
  | .again _ => cs.dropWhile isBlank = spell tokens
  | _ => cs = spell tokens

theorem Heads.enters (heads : Heads tokens next) (phrase : Phrase) :
    Enters tokens (spell tokens) phrase := by
  cases phrase with
  | again inner => exact heads.dropWhile_spell
  | _ => rfl

theorem Derivation.enters {phrase : Phrase} (derived : Derivation phrase tokens outlines)
    (decided : phrase.isDecided = true) (heads : Heads rest next) (entered : Phrase) :
    Enters (tokens ++ rest) (spell (tokens ++ rest)) entered := by
  rcases derived.heads decided heads with ⟨rfl, _⟩ | ⟨_, _, front⟩
  · exact heads.enters entered
  · exact front.enters entered

/-- Whatever follows the tokens without being taken for a part of the phrase, the phrase takes the
tokens and is made of the given outlines. -/
def Recognised (phrase : Phrase) (tokens : List (List Char)) (outlines : List Outline) : Prop :=
  ∀ ⦃rest next depth cs⦄, Heads rest next → phrase.stops (stopsWithin next depth) next = true →
    Enters (tokens ++ rest) cs phrase →
    ∃ left, phrase.Gives cs outlines left ∧ left.dropWhile isBlank = spell rest

theorem heads_of_reads {rule : Rule} {text : List Char} (reads : (Terminal.token rule).Reads text)
    (rest : List (List Char)) : Heads (text :: rest) (some (.token rule)) :=
  .begun reads (show Look.blank ∉ looksOf rule from visible_looksOf rule)

theorem gives_mark (mark : Char) (rest : List (List Char)) :
    (Phrase.symbol mark).Gives (spell ([mark] :: rest)) [] (gap rest) := by
  rw [spell_cons]
  exact gives_symbol mark (gap rest)

theorem gives_reads {rule : Rule} {text : List Char} (reads : (Terminal.token rule).Reads text)
    (rest : List (List Char)) :
    (Phrase.ref rule).Gives (spell (text :: rest)) [.leaf rule (String.ofList text)]
      (gap rest) := by
  obtain ⟨visible, pattern, defined, whole⟩ := reads
  rw [spell_cons]
  exact gives_token defined (scan_of_token defined visible whole (ended_gap rest))

theorem recognised_symbol (mark : Char) : Recognised (.symbol mark) [[mark]] [] := by
  rintro rest next depth cs heads - rfl
  exact ⟨gap rest, gives_mark mark rest, heads.dropWhile_gap⟩

theorem recognised_token {rule : Rule} {text : List Char}
    (reads : (Terminal.token rule).Reads text) :
    Recognised (.ref rule) [text] [.leaf rule (String.ofList text)] := by
  rintro rest next depth cs heads - rfl
  exact ⟨gap rest, gives_reads reads rest, heads.dropWhile_gap⟩

theorem Recognised.phrase {rule : Rule} {body : Phrase} (defined : definition rule = .phrase body)
    (derived : Derivation body tokens outlines) (decided : body.isDecided = true)
    (inner : Recognised body tokens outlines) :
    Recognised (.ref rule) tokens [.branch rule outlines] := by
  rintro rest next depth cs heads stops rfl
  cases depth with
  | zero => cases stops
  | succ depth =>
      rw [Phrase.stops, stopsWithin, defined] at stops
      obtain ⟨left, given, done⟩ := inner heads stops (derived.enters decided heads body)
      exact ⟨left, given.phrase defined, done⟩

/-- What follows the first of two parts: the second part, or what follows both. -/
theorem Derivation.follows {first second : Phrase} (two : Derivation second tokens outlines)
    (decided : second.isDecided = true) (heads : Heads rest next) {depth : Nat}
    (ends : second.mayBeEmpty = true → first.stops (stopsWithin next depth) next = true)
    (between : ∀ terminal ∈ second.first ruleFirst,
      first.stops (stopsWithin (some terminal) lookDepth) (some terminal) = true) :
    ∃ next' depth', Heads (tokens ++ rest) next' ∧
      first.stops (stopsWithin next' depth') next' = true := by
  rcases two.heads decided heads with ⟨rfl, empty⟩ | ⟨terminal, among, front⟩
  · exact ⟨next, depth, heads, ends empty⟩
  · exact ⟨some terminal, lookDepth, front, between terminal among⟩

theorem Recognised.seq {first second : Phrase} {tokens' : List (List Char)}
    {outlines' : List Outline} (decided : (Phrase.seq first second).isDecided = true)
    (derived : Derivation first tokens outlines) (derived' : Derivation second tokens' outlines')
    (one : Recognised first tokens outlines) (two : Recognised second tokens' outlines') :
    Recognised (.seq first second) (tokens ++ tokens') (outlines ++ outlines') := by
  rintro rest next depth cs heads stops rfl
  simp only [isDecided, Bool.and_eq_true, List.all_eq_true] at decided
  simp only [Phrase.stops, Bool.and_eq_true, Bool.or_eq_true, Bool.not_eq_true'] at stops
  obtain ⟨⟨decidedOne, decidedTwo⟩, between⟩ := decided
  obtain ⟨next', depth', heads', stops'⟩ := derived'.follows decidedTwo heads
    (fun empty => stops.2.resolve_left (by rw [empty]; nofun)) between
  rw [List.append_assoc]
  obtain ⟨mid, front, skipped⟩ := one heads' stops' (derived.enters decidedOne heads' first)
  obtain ⟨left, back, done⟩ := two heads stops.1 (derived'.enters decidedTwo heads second)
  refine ⟨left, front.seq ?_, done⟩
  rw [skipped]
  exact back

theorem Recognised.join {first second : Phrase} {tokens' : List (List Char)}
    {outlines' : List Outline} (decided : (Phrase.join first second).isDecided = true)
    (derived : Derivation first tokens outlines) (derived' : Derivation second tokens' outlines')
    (one : Recognised first tokens outlines) (two : Recognised second tokens' outlines') :
    Recognised (.join first second) (tokens ++ tokens') (outlines ++ outlines') := by
  rintro rest next depth cs heads stops rfl
  rw [isDecided] at decided
  simp only [Bool.and_eq_true, List.all_eq_true] at decided
  rw [Phrase.stops] at stops
  simp only [Bool.and_eq_true, Bool.or_eq_true, Bool.not_eq_true'] at stops
  obtain ⟨⟨⟨decidedOne, decidedTwo⟩, repeats⟩, between⟩ := decided
  obtain ⟨next', depth', heads', stops'⟩ := derived'.follows decidedTwo heads
    (fun empty => stops.2.resolve_left (by rw [empty]; nofun)) between
  rw [List.append_assoc]
  obtain ⟨mid, front, skipped⟩ := one heads' stops' (derived.enters decidedOne heads' first)
  have entered : Enters (tokens' ++ rest) mid second := by
    cases second with
    | again inner => exact skipped
    | _ => cases repeats
  obtain ⟨left, back, done⟩ := two heads stops.1 entered
  exact ⟨left, front.join back, done⟩

theorem recognised_optNone (inner : Phrase) : Recognised (.opt inner) [] [] := by
  rintro rest next depth cs heads stops rfl
  rw [Phrase.stops, Bool.and_eq_true_iff] at stops
  exact ⟨_, (fails_of_isRefused stops.2 heads).opt, heads.dropWhile_spell⟩

theorem Recognised.opt {inner : Phrase} (decided : inner.isDecided = true)
    (derived : Derivation inner tokens outlines) (one : Recognised inner tokens outlines) :
    Recognised (.opt inner) tokens outlines := by
  rintro rest next depth cs heads stops rfl
  rw [Phrase.stops, Bool.and_eq_true_iff] at stops
  obtain ⟨left, given, done⟩ := one heads stops.1 (derived.enters decided heads inner)
  exact ⟨left, given.opt, done⟩

theorem recognised_againNone (inner : Phrase) : Recognised (.again inner) [] [] := by
  intro rest next depth cs heads stops entered
  rw [Phrase.stops, Bool.and_eq_true_iff] at stops
  have skipped : cs.dropWhile isBlank = spell rest := entered
  refine ⟨cs, Fails.again ?_, skipped⟩
  rw [skipped]
  exact fails_of_isRefused stops.2 heads

theorem Recognised.again {inner : Phrase} {tokens' : List (List Char)} {outlines' : List Outline}
    (decided : (Phrase.again inner).isDecided = true) (derived : Derivation inner tokens outlines)
    (derived' : Derivation (.again inner) tokens' outlines')
    (one : Recognised inner tokens outlines) (more : Recognised (.again inner) tokens' outlines') :
    Recognised (.again inner) (tokens ++ tokens') (outlines ++ outlines') := by
  intro rest next depth cs heads stops entered
  have whole := decided
  rw [isDecided] at decided
  simp only [Bool.and_eq_true, List.all_eq_true] at decided
  have ends := stops
  rw [Phrase.stops, Bool.and_eq_true_iff] at ends
  obtain ⟨next', depth', heads', stops'⟩ :=
    derived'.follows whole heads (fun _ => ends.1) decided.2
  have skipped : cs.dropWhile isBlank = spell (tokens ++ (tokens' ++ rest)) := by
    rw [← List.append_assoc]
    exact entered
  obtain ⟨mid, front, skipped'⟩ := one heads' stops' (derived.enters decided.1.1 heads' inner)
  obtain ⟨left, back, done⟩ := more heads stops skipped'
  refine ⟨left, Gives.again ?_ back, done⟩
  rw [skipped]
  exact front

/-! ## Choices -/

/-- An alternative is taken when those before it fail. -/
theorem gives_of_picks {phrase : Phrase} {pick : List Phrase × Phrase}
    (picked : pick ∈ phrase.picks) {cs left : List Char}
    (fails : ∀ earlier ∈ pick.1, earlier.Fails cs) (given : pick.2.Gives cs outlines left) :
    phrase.Gives cs outlines left := by
  induction phrase generalizing pick with
  | alt first second ihFirst ihSecond =>
      rcases List.mem_append.1 picked with front | back
      · exact (ihFirst front fails given).alt_first
      · obtain ⟨inner, among, rfl⟩ := List.mem_map.1 back
        obtain ⟨one, others⟩ := List.forall_mem_cons.1 fails
        exact (ihSecond among others given).alt_second one
  | _ =>
      rw [List.mem_singleton.1 picked] at given
      exact given

theorem stops_of_picks {phrase : Phrase} {pick : List Phrase × Phrase}
    (picked : pick ∈ phrase.picks) {known : Rule → Bool} (stops : phrase.stops known next = true) :
    pick.2.stops known next = true := by
  induction phrase generalizing pick with
  | alt first second ihFirst ihSecond =>
      rw [Phrase.stops] at stops
      simp only [Bool.and_eq_true] at stops
      rcases List.mem_append.1 picked with front | back
      · exact ihFirst front stops.1.1
      · obtain ⟨inner, among, rfl⟩ := List.mem_map.1 back
        exact @ihSecond inner among stops.1.2
  | _ =>
      rw [List.mem_singleton.1 picked]
      exact stops

theorem isDecided_of_picks {phrase : Phrase} {pick : List Phrase × Phrase}
    (picked : pick ∈ phrase.picks) (decided : phrase.isDecided = true) :
    pick.2.isDecided = true := by
  induction phrase generalizing pick with
  | alt first second ihFirst ihSecond =>
      rw [isDecided] at decided
      simp only [Bool.and_eq_true] at decided
      rcases List.mem_append.1 picked with front | back
      · exact ihFirst front decided.1.1
      · obtain ⟨inner, among, rfl⟩ := List.mem_map.1 back
        exact @ihSecond inner among decided.1.2
  | _ =>
      rw [List.mem_singleton.1 picked]
      exact decided

/-- The alternative holds its own in every contest in which it comes later: the earlier one fails at
the tokens of the alternative, unless something follows that it needs. -/
def Prevails (chosen : Phrase) (tokens : List (List Char)) : Prop :=
  ∀ contest ∈ contests, contest.chosen = chosen → ∀ ⦃rest next⦄, Heads rest next →
    (∀ tail ∈ contest.tails, tail.isRefused next = true) →
    contest.earlier.Fails (spell (tokens ++ rest))

theorem Recognised.alt {first second : Phrase}
    (decided : (Phrase.alt first second).isDecided = true) {pick : List Phrase × Phrase}
    (picked : pick ∈ (Phrase.alt first second).picks) (derived : Derivation pick.2 tokens outlines)
    (prevails : Prevails pick.2 tokens) (one : Recognised pick.2 tokens outlines) :
    Recognised (.alt first second) tokens outlines := by
  rintro rest next depth cs heads stops rfl
  have inner := isDecided_of_picks picked decided
  have ends := stops_of_picks picked stops
  rw [isDecided] at decided
  rw [Phrase.stops] at stops
  simp only [Bool.and_eq_true, List.all_eq_true, Bool.or_eq_true, Bool.not_eq_true'] at decided
  simp only [Bool.and_eq_true, List.all_eq_true] at stops
  obtain ⟨visible, others⟩ := decided.2 pick picked
  obtain ⟨left, given, done⟩ := one heads ends (derived.enters inner heads pick.2)
  refine ⟨left, gives_of_picks picked (fun earlier among => ?_) given, done⟩
  cases found : contest? earlier pick.2 with
  | some contest =>
      have names := List.find?_some found
      rw [Bool.and_eq_true_iff, beq_iff_eq, beq_iff_eq] at names
      have tails := stops.2 pick picked earlier among
      rw [found] at tails
      rw [← names.1]
      exact prevails contest (List.mem_of_find?_eq_some found) names.2 heads
        (List.all_eq_true.1 tails)
  | none =>
      obtain ⟨terminal, begins, front⟩ := derived.begins inner visible heads
      refine fails_of_isRefused ?_ front
      exact ((others earlier among).resolve_left (by rw [found]; nofun)) terminal begins

end Cql.Grammar
