import Cql.Filter.Parse
import Cql.Proofs.Grammar.Contest
import Cql.Proofs.Grammar.TokenNesting

/-!
# Every filter of the grammar is read

What is derived from the grammar over tokens is found by the matcher, which tries alternatives in
order and never comes back to one. The induction is on the number of tokens and, for equally many,
on the derivation: only in a contest an alternative is followed into tokens that are not its own,
and the operand that it takes there is shorter than the comparison. As the matcher finds one tree,
there is one derivation.
-/

namespace Cql.Grammar

/-- The phrase is recognised, and so is the alternative of it that the tokens are derived from. -/
def Settled (phrase : Phrase) (tokens : List (List Char)) (outlines : List Outline) : Prop :=
  Recognised phrase tokens outlines ∧ ∃ pick ∈ phrase.picks,
    Derivation pick.2 tokens outlines ∧ Recognised pick.2 tokens outlines

/-- A phrase that is no choice is its only alternative. -/
theorem Recognised.settled {phrase : Phrase} {tokens : List (List Char)} {outlines : List Outline}
    (recognised : Recognised phrase tokens outlines) (derived : Derivation phrase tokens outlines)
    (single : ([], phrase) ∈ phrase.picks) : Settled phrase tokens outlines :=
  ⟨recognised, _, single, derived, recognised⟩

/-- What is derived is settled if what has fewer tokens is recognised. -/
theorem Derivation.settled {limit : Nat}
    (shorter : ∀ {phrase tokens outlines}, tokens.length < limit →
      Derivation phrase tokens outlines → phrase.isDecided = true →
      Recognised phrase tokens outlines)
    {phrase : Phrase} {tokens : List (List Char)} {outlines : List Outline}
    (derived : Derivation phrase tokens outlines) (bound : tokens.length ≤ limit)
    (decided : phrase.isDecided = true) : Settled phrase tokens outlines := by
  have choice {first second : Phrase} {tokens : List (List Char)} {outlines : List Outline}
      (bound : tokens.length ≤ limit) (decided : (Phrase.alt first second).isDecided = true)
      (inner : ∃ pick ∈ (Phrase.alt first second).picks,
        Derivation pick.2 tokens outlines ∧ Recognised pick.2 tokens outlines) :
      Settled (.alt first second) tokens outlines := by
    obtain ⟨pick, picked, derived, recognised⟩ := inner
    have prevails := prevails derived recognised fun less =>
      shorter (Nat.lt_of_lt_of_le less bound)
    exact ⟨.alt decided picked derived prevails recognised, pick, picked, derived, recognised⟩
  have parts := decided
  induction derived with
  | start | ending => cases decided
  | symbol mark => exact (recognised_symbol mark).settled (.symbol mark) List.mem_cons_self
  | token reads => exact (recognised_token reads).settled (.token reads) List.mem_cons_self
  | phrase defined inner ih =>
      have decided' := isDecided_of_phrase defined (by rintro rfl; cases decided)
      have recognised := (ih bound decided' decided').1.phrase defined inner decided'
      exact recognised.settled (.phrase defined inner) List.mem_cons_self
  | seq one two ihOne ihTwo =>
      rw [List.length_append] at bound
      simp only [Phrase.isDecided, Bool.and_eq_true] at parts
      have recognised := (ihOne (by omega) parts.1.1 parts.1.1).1
      have recognised' := (ihTwo (by omega) parts.1.2 parts.1.2).1
      exact (recognised.seq decided one two recognised').settled (.seq one two) List.mem_cons_self
  | join one two ihOne ihTwo =>
      rw [List.length_append] at bound
      simp only [Phrase.isDecided, Bool.and_eq_true] at parts
      have recognised := (ihOne (by omega) parts.1.1.1 parts.1.1.1).1
      have recognised' := (ihTwo (by omega) parts.1.1.2 parts.1.1.2).1
      exact (recognised.join decided one two recognised').settled (.join one two) List.mem_cons_self
  | altFirst one ih =>
      simp only [Phrase.isDecided, Bool.and_eq_true] at parts
      obtain ⟨pick, picked, inner⟩ := (ih bound parts.1.1 parts.1.1).2
      exact choice bound decided ⟨pick, List.mem_append_left _ picked, inner⟩
  | altSecond two ih =>
      simp only [Phrase.isDecided, Bool.and_eq_true] at parts
      obtain ⟨pick, picked, inner⟩ := (ih bound parts.1.2 parts.1.2).2
      exact choice bound decided ⟨_, List.mem_append_right _ (List.mem_map_of_mem picked), inner⟩
  | optNone inner =>
      exact (recognised_optNone inner).settled (.optNone inner) List.mem_cons_self
  | optSome one ih =>
      simp only [Phrase.isDecided, Bool.and_eq_true] at parts
      have recognised := (ih bound parts.1 parts.1).1
      exact (recognised.opt parts.1 one).settled (.optSome one) List.mem_cons_self
  | againNone inner =>
      exact (recognised_againNone inner).settled (.againNone inner) List.mem_cons_self
  | againMore one more ihOne ihMore =>
      rw [List.length_append] at bound
      simp only [Phrase.isDecided, Bool.and_eq_true] at parts
      have recognised := (ihOne (by omega) parts.1.1 parts.1.1).1
      have recognised' := (ihMore (by omega) decided decided).1
      exact (recognised.again decided one more recognised').settled (.againMore one more)
        List.mem_cons_self

theorem Derivation.recognised {phrase : Phrase} {tokens : List (List Char)}
    {outlines : List Outline} (derived : Derivation phrase tokens outlines)
    (decided : phrase.isDecided = true) : Recognised phrase tokens outlines :=
  (derived.settled (fun _ inner decided => inner.recognised decided) (Nat.le_refl tokens.length)
    decided).1
termination_by tokens.length

/-! ## Filters -/

theorem Derivation.of_filter {tokens : List (List Char)} {outlines : List Outline}
    (derived : Derivation (.ref .cqlFilter) tokens outlines) :
    ∃ inner, Derivation (.ref .booleanExpression) tokens inner ∧
      outlines = [.branch .cqlFilter (inner ++ [.leaf .endOfInput ""])] := by
  cases derived with
  | token reads =>
      obtain ⟨_, _, other, _⟩ := reads
      cases other
  | phrase defined body =>
      cases defined
      cases body with
      | seq front back =>
          cases front with
          | seq first condition =>
              cases first
              cases back with
              | ending =>
                  rw [List.nil_append, List.append_nil, List.nil_append]
                  exact ⟨_, condition, rfl⟩
              | token reads =>
                  obtain ⟨visible, _, defined, whole⟩ := reads
                  cases defined
                  exact absurd (Pattern.takes_of_scan _ whole) visible
              | phrase other _ => cases other

theorem exists_parse_of_derivation {tokens : List (List Char)} {outlines : List Outline}
    (derived : Derivation (.ref .cqlFilter) tokens outlines) :
    ∃ tree, parse .cqlFilter (spell tokens) = .ok [tree] ∧ outlines = [tree.outline] := by
  obtain ⟨inner, condition, rfl⟩ := derived.of_filter
  obtain ⟨terminal, _, heads⟩ := condition.begins rfl rfl .ended
  have ends : stopsWithin none lookDepth .booleanExpression = true := by decide +kernel
  obtain ⟨left, given, done⟩ := condition.recognised rfl .ended ends (heads.enters _)
  rw [← heads.dropWhile_spell, List.append_nil] at given
  have last : (Phrase.ref .endOfInput).Gives (left.dropWhile isBlank)
      [.leaf .endOfInput ""] [] := by
    rw [done]
    exact Phrase.gives_token rfl rfl
  have body := ((Phrase.givesAt_start (spell tokens)).seq given).seq last
  have whole : (Phrase.ref .cqlFilter).GivesAt ⟨0, spell tokens⟩ _ [] := body.phrase rfl
  obtain ⟨tree, found, same⟩ := exists_parse_of_givesAt whole
  exact ⟨tree, found, congrArg (· :: []) same.symm⟩

end Cql.Grammar

namespace Cql.Filter

open Cql.Grammar

/-- Every filter that the grammar derives as a row of tokens is read when its tokens are written
with single blanks between them, if its brackets do not nest too deep. The tree is that of the
derivation, and so there is only one derivation. -/
theorem exists_parse_spell {tokens : List (List Char)} {outlines : List Outline}
    (derived : Derivation (.ref .cqlFilter) tokens outlines)
    (shallow : deepest 0 tokens ≤ nestingLimit) :
    ∃ tree, parse (String.ofList (spell tokens)) = .ok tree ∧
      ∀ outlines', Derivation (.ref .cqlFilter) tokens outlines' ↔ outlines' = [tree.outline] := by
  obtain ⟨tree, found, same⟩ := exists_parse_of_derivation derived
  refine ⟨tree, ?_, fun outlines' => ⟨fun other => ?_, ?_⟩⟩
  · rw [parse, String.toList_ofList, parseChars, firstOverdeep_spell derived shallow]
    simp only [found]
  · obtain ⟨tree', found', same'⟩ := exists_parse_of_derivation other
    rw [found] at found'
    cases found'
    exact same'
  · rintro rfl
    rw [← same]
    exact derived

/-- One name for a function and for a property, a range with its own `AND`, and a truth value. -/
theorem exists_parse_spell_range :
    let tokens := ["NOT", "x", "(", ")", "AND", "(", "x", "BETWEEN", "1", "AND", "2", "OR", "TRUE",
      ")"].map String.toList
    (∃ outlines, Derivation (.ref .cqlFilter) tokens outlines) ∧
      deepest 0 tokens ≤ nestingLimit ∧
      ∃ tree, parse "NOT x ( ) AND ( x BETWEEN 1 AND 2 OR TRUE )" = .ok tree ∧
        ∀ outlines', Derivation (.ref .cqlFilter) tokens outlines' ↔
          outlines' = [tree.outline] := by
  intro tokens
  have reads {rule : Rule} {text : List Char} {pattern : Pattern} (visible : text ≠ [])
      (defined : definition rule = .token pattern) (whole : pattern.scan text = some (text, [])) :
      Derivation (.ref rule) [text] [.leaf rule (String.ofList text)] :=
    .token ⟨visible, pattern, defined, whole⟩
  have negation : Derivation (Phrase.kw .not) ["NOT".toList] _ :=
    reads (by decide) rfl (by decide +kernel)
  have conjunction : Derivation (Phrase.kw .and) ["AND".toList] _ :=
    reads (by decide) rfl (by decide +kernel)
  have disjunction : Derivation (Phrase.kw .or) ["OR".toList] _ :=
    reads (by decide) rfl (by decide +kernel)
  have between : Derivation (Phrase.kw .between) ["BETWEEN".toList] _ :=
    reads (by decide) rfl (by decide +kernel)
  have truth : Derivation (.ref .booleanLiteral) ["TRUE".toList] _ :=
    reads (by decide) rfl (by decide +kernel)
  have named : Derivation (.ref .identifier) ["x".toList] _ :=
    reads (by decide) rfl (by decide +kernel)
  have value : Derivation (.ref .numericExpression) ["x".toList] _ :=
    .phrase rfl (.altSecond (.altSecond (.phrase rfl named)))
  have low : Derivation (.ref .numericExpression) ["1".toList] _ :=
    .phrase rfl (.altFirst (reads (by decide) rfl (by decide +kernel)))
  have high : Derivation (.ref .numericExpression) ["2".toList] _ :=
    .phrase rfl (.altFirst (reads (by decide) rfl (by decide +kernel)))
  have range : Derivation (.ref .isBetweenPredicate)
      (["x", "BETWEEN", "1", "AND", "2"].map String.toList) _ :=
    .phrase rfl (.seq (.seq (.seq (.seq (.seq value (.optNone _)) between) low) conjunction) high)
  have left : Derivation (.ref .booleanTerm)
      (["x", "BETWEEN", "1", "AND", "2"].map String.toList) _ :=
    .phrase rfl <| .seq (.phrase rfl <| .seq (.optNone _) <| .phrase rfl <| .altFirst <|
      .phrase rfl <| .altFirst <| .phrase rfl <| .altSecond <| .altSecond <| .altFirst range)
        (.optNone _)
  have right : Derivation (.ref .booleanTerm) ["TRUE".toList] _ :=
    .phrase rfl <| .seq (.phrase rfl <| .seq (.optNone _) <| .phrase rfl <| .altSecond <|
      .altFirst truth) (.optNone _)
  have either : Derivation (.ref .booleanExpression)
      (["x", "BETWEEN", "1", "AND", "2", "OR", "TRUE"].map String.toList) _ :=
    .phrase rfl (.seq left (.optSome (.join (.seq disjunction right) (.againNone _))))
  have call : Derivation (.ref .function) (["x", "(", ")"].map String.toList) _ :=
    .phrase rfl <| .seq named <| .phrase rfl <|
      .seq (.seq (.symbol '(') (.optNone _)) (.symbol ')')
  have first : Derivation (.ref .booleanFactor) (["NOT", "x", "(", ")"].map String.toList) _ :=
    .phrase rfl (.seq (.optSome negation) (.phrase rfl (.altSecond (.altSecond (.altSecond call)))))
  have second : Derivation (.ref .booleanFactor)
      (["(", "x", "BETWEEN", "1", "AND", "2", "OR", "TRUE", ")"].map String.toList) _ :=
    .phrase rfl <| .seq (.optNone _) <| .phrase rfl <| .altSecond <| .altSecond <| .altFirst <|
      .seq (.seq (.symbol '(') either) (.symbol ')')
  have both : Derivation (.ref .booleanTerm) tokens _ :=
    .phrase rfl (.seq first (.optSome (.join (.seq conjunction second) (.againNone _))))
  have condition : Derivation (.ref .booleanExpression) tokens _ :=
    .phrase rfl (.seq both (.optNone _))
  have derived : Derivation (.ref .cqlFilter) tokens _ :=
    .phrase rfl (.seq (.seq .start condition) .ending)
  have shallow : deepest 0 tokens ≤ nestingLimit := by decide +kernel
  have spelt : String.ofList (spell tokens) = "NOT x ( ) AND ( x BETWEEN 1 AND 2 OR TRUE )" := by
    decide +kernel
  rw [← spelt]
  exact ⟨⟨_, derived⟩, shallow, exists_parse_spell derived shallow⟩

end Cql.Filter
