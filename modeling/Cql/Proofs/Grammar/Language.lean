import Cql.Grammar.Definition

/-!
# The language of the grammar

Patterns and phrases read as plain grammars, in which every choice is free and every repetition may
end anywhere. A pattern takes texts. A phrase spells the rules of the nodes that it makes, whatever
stands inside them. Matching never leaves these languages, and they are simple enough to be
computed rule by rule.
-/

namespace Cql.Grammar

namespace Pattern

/-- The texts that a pattern can take. What a pattern excludes takes nothing. -/
def Takes : Pattern → List Char → Prop
  | .literal word, cs => cs = word.toList
  | .caseless word, cs => cs.map Char.toLower = word.toList.map Char.toLower
  | .one cls, cs => ∃ c, cls.contains c = true ∧ cs = [c]
  | .seq first second, cs => ∃ xs ys, first.Takes xs ∧ second.Takes ys ∧ cs = xs ++ ys
  | .alt first second, cs => first.Takes cs ∨ second.Takes cs
  | .opt inner, cs => cs = [] ∨ inner.Takes cs
  | .many inner, cs =>
      ∃ rounds : List (List Char), (∀ round ∈ rounds, inner.Takes round) ∧ cs = rounds.flatten
  | .not _, cs => cs = []

/-- A word that was taken by comparing letters without their case is that word up to case. -/
theorem map_toLower_of_takeWord {word cs taken left : List Char}
    (found : takeWord Text.sameLetter word cs = some (taken, left)) :
    taken.map Char.toLower = word.map Char.toLower := by
  induction word generalizing cs taken with
  | nil =>
      simp only [takeWord, Option.some.injEq, Prod.mk.injEq] at found
      rw [← found.1]
  | cons w ws ih =>
      cases cs with
      | nil => simp [takeWord] at found
      | cons c cs =>
          simp only [takeWord] at found
          split at found
          · next same =>
              obtain ⟨rest, inner, pair⟩ := Option.map_eq_some_iff.1 found
              cases pair
              have letters : w.toLower = c.toLower := beq_iff_eq.1 same
              simp only [List.map_cons, letters, ih inner]
          · cases found

theorem eq_of_takeWord {word cs taken left : List Char}
    (found : takeWord (· == ·) word cs = some (taken, left)) : taken = word := by
  induction word generalizing cs taken with
  | nil =>
      simp only [takeWord, Option.some.injEq, Prod.mk.injEq] at found
      rw [← found.1]
  | cons w ws ih =>
      cases cs with
      | nil => simp [takeWord] at found
      | cons c cs =>
          simp only [takeWord] at found
          split at found
          · next same =>
              obtain ⟨rest, inner, pair⟩ := Option.map_eq_some_iff.1 found
              cases pair
              rw [beq_iff_eq.1 same, ih inner]
          · cases found

/-- What is scanned in rounds falls into pieces that were scanned in one round each. -/
theorem exists_rounds_of_scanRounds {scan : List Char → Option (List Char × List Char)}
    {Round : List Char → Prop} (each : ∀ cs taken left, scan cs = some (taken, left) → Round taken)
    (limit cs : List Char) :
    ∃ rounds : List (List Char),
      (∀ round ∈ rounds, Round round) ∧ (scanRounds scan limit cs).1 = rounds.flatten := by
  induction limit generalizing cs with
  | nil => exact ⟨[], by simp, rfl⟩
  | cons _ limit ih =>
      simp only [scanRounds]
      split
      · exact ⟨[], by simp, rfl⟩
      · next taken left found =>
          obtain ⟨rounds, all, whole⟩ := ih left
          refine ⟨taken :: rounds, ?_, by rw [whole, List.flatten_cons]⟩
          intro round member
          rcases List.mem_cons.1 member with rfl | later
          · exact each cs round left found
          · exact all round later

/-- Whatever a pattern is found to take belongs to its language. -/
theorem takes_of_scan (pattern : Pattern) {cs taken left : List Char}
    (found : pattern.scan cs = some (taken, left)) : pattern.Takes taken := by
  induction pattern generalizing cs taken left with
  | literal word => exact eq_of_takeWord found
  | caseless word => exact map_toLower_of_takeWord found
  | one cls =>
      cases cs with
      | nil => simp [scan] at found
      | cons c cs =>
          simp only [scan] at found
          split at found
          · next belongs =>
              cases found
              exact ⟨c, belongs, rfl⟩
          · cases found
  | seq first second ihFirst ihSecond =>
      simp only [scan] at found
      split at found
      · cases found
      · next firstFound =>
          obtain ⟨rest, inner, pair⟩ := Option.map_eq_some_iff.1 found
          cases pair
          exact ⟨_, _, ihFirst firstFound, ihSecond inner, rfl⟩
  | alt first second ihFirst ihSecond =>
      simp only [scan] at found
      split at found
      · exact .inr (ihSecond found)
      · next firstFound =>
          cases found
          exact .inl (ihFirst firstFound)
  | opt inner ih =>
      simp only [scan] at found
      split at found
      · cases found
        exact .inl rfl
      · next innerFound =>
          cases found
          exact .inr (ih innerFound)
  | many inner ih =>
      simp only [scan, Option.some.injEq] at found
      obtain ⟨rounds, all, whole⟩ :=
        exists_rounds_of_scanRounds (fun _ _ _ => ih) cs cs
      rw [found] at whole
      exact ⟨rounds, all, whole⟩
  | not inner _ =>
      simp only [scan] at found
      split at found
      · cases found
        rfl
      · cases found

def avoids (characters : List Char) : Pattern → Bool
  | .literal word => word.toList.all fun c => !characters.contains c
  | .caseless word => characters.all fun c => !(word.toList.map Char.toLower).contains c.toLower
  | .one cls => characters.all fun c => !cls.contains c
  | .seq first second | .alt first second => first.avoids characters && second.avoids characters
  | .opt inner | .many inner => inner.avoids characters
  | .not _ => true

theorem not_mem_of_takes {pattern : Pattern} {characters cs : List Char}
    (taken : pattern.Takes cs) (avoids : pattern.avoids characters = true) :
    ∀ c ∈ cs, c ∉ characters := by
  intro c member bad
  induction pattern generalizing cs with
  | literal word =>
      rw [show cs = word.toList from taken] at member
      simpa [bad] using List.all_eq_true.1 avoids c member
  | caseless word =>
      have lower : c.toLower ∈ word.toList.map Char.toLower := by
        rw [← show cs.map Char.toLower = _ from taken]
        exact List.mem_map_of_mem member
      simpa [lower] using List.all_eq_true.1 avoids c bad
  | one cls =>
      obtain ⟨d, belongs, rfl⟩ := taken
      rw [List.mem_singleton.1 member] at bad
      simpa [belongs] using List.all_eq_true.1 avoids d bad
  | seq first second ihFirst ihSecond =>
      obtain ⟨xs, ys, one, two, rfl⟩ := taken
      obtain ⟨left, right⟩ := Bool.and_eq_true_iff.1 avoids
      rcases List.mem_append.1 member with front | back
      · exact ihFirst one left front
      · exact ihSecond two right back
  | alt first second ihFirst ihSecond =>
      obtain ⟨left, right⟩ := Bool.and_eq_true_iff.1 avoids
      rcases taken with one | two
      · exact ihFirst one left member
      · exact ihSecond two right member
  | opt inner ih =>
      rcases taken with rfl | one
      · cases member
      · exact ih one avoids member
  | many inner ih =>
      obtain ⟨rounds, all, rfl⟩ := taken
      obtain ⟨round, among, inside⟩ := List.mem_flatten.1 member
      exact ih (all round among) avoids inside
  | not inner _ =>
      rw [show cs = [] from taken] at member
      cases member

/-! ## Composite patterns -/

/-- A choice among several patterns takes what one of them takes. -/
theorem takes_firstOf {patterns : List Pattern} {cs : List Char}
    (taken : (firstOf patterns).Takes cs) (nonempty : patterns ≠ []) :
    ∃ pattern ∈ patterns, pattern.Takes cs := by
  induction patterns with
  | nil => exact absurd rfl nonempty
  | cons pattern patterns ih =>
      cases patterns with
      | nil => exact ⟨pattern, by simp, taken⟩
      | cons next others =>
          rcases taken with first | later
          · exact ⟨pattern, by simp, first⟩
          · obtain ⟨found, member, takes⟩ := ih later (by simp)
            exact ⟨found, List.mem_cons_of_mem _ member, takes⟩

theorem takes_wholeWord {pattern : Pattern} {cs : List Char}
    (taken : (wholeWord pattern).Takes cs) : pattern.Takes cs := by
  obtain ⟨xs, ys, first, second, rfl⟩ := taken
  rw [show ys = [] from second, List.append_nil]
  exact first

theorem sameWord_of_takes_wordOf {words : List String} {text : String} (inhabited : words ≠ [])
    (taken : (wordOf words).Takes text.toList) :
    ∃ word ∈ words, Text.sameWord text word = true := by
  obtain ⟨pattern, member, takes⟩ :=
    takes_firstOf (takes_wholeWord taken) (by simpa using inhabited)
  obtain ⟨word, among, rfl⟩ := List.mem_map.1 member
  exact ⟨word, among, beq_iff_eq.2 takes⟩

end Pattern

namespace Phrase

/-- The lists of rules that a phrase can spell: those of the nodes it makes, from left to right. -/
def Spells : Phrase → List Rule → Prop
  | .start, rules => rules = []
  | .symbol _, rules => rules = []
  | .text _, rules => rules = []
  | .ref rule, rules => rules = [rule]
  | .seq first second, rules => ∃ xs ys, first.Spells xs ∧ second.Spells ys ∧ rules = xs ++ ys
  | .join first second, rules => ∃ xs ys, first.Spells xs ∧ second.Spells ys ∧ rules = xs ++ ys
  | .alt first second, rules => first.Spells rules ∨ second.Spells rules
  | .opt inner, rules => rules = [] ∨ inner.Spells rules
  | .again inner, rules =>
      ∃ rounds : List (List Rule), (∀ round ∈ rounds, inner.Spells round) ∧ rules = rounds.flatten

@[simp] theorem spells_start {rules : List Rule} : start.Spells rules ↔ rules = [] := Iff.rfl

@[simp] theorem spells_symbol {mark : Char} {rules : List Rule} :
    (symbol mark).Spells rules ↔ rules = [] := Iff.rfl

@[simp] theorem spells_ref {rule : Rule} {rules : List Rule} :
    (ref rule).Spells rules ↔ rules = [rule] := Iff.rfl

@[simp] theorem spells_kw {word : Keyword} {rules : List Rule} :
    (kw word).Spells rules ↔ rules = [.keyword word] := Iff.rfl

@[simp] theorem spells_append {first second : Phrase} {rules : List Rule} :
    (first ++ second).Spells rules ↔
      ∃ xs ys, first.Spells xs ∧ second.Spells ys ∧ rules = xs ++ ys := Iff.rfl

@[simp] theorem spells_orElse {first second : Phrase} {rules : List Rule} :
    (first <|> second).Spells rules ↔ first.Spells rules ∨ second.Spells rules := Iff.rfl

@[simp] theorem spells_opt {inner : Phrase} {rules : List Rule} :
    (opt inner).Spells rules ↔ rules = [] ∨ inner.Spells rules := Iff.rfl

@[simp] theorem spells_bracketed {inner : Phrase} {rules : List Rule} :
    (bracketed inner).Spells rules ↔ inner.Spells rules := by
  simp [bracketed]

def mentions : Phrase → List Rule
  | .ref rule => [rule]
  | .seq first second | .join first second | .alt first second =>
      first.mentions ++ second.mentions
  | .opt inner | .again inner => inner.mentions
  | .start | .symbol _ | .text _ => []

/-- A phrase spells none but the rules that stand in it. -/
theorem mem_mentions_of_spells {phrase : Phrase} {rules : List Rule} (spelled : phrase.Spells rules)
    {rule : Rule} (member : rule ∈ rules) : rule ∈ phrase.mentions := by
  induction phrase generalizing rules with
  | start | symbol _ | text _ => rw [show rules = [] from spelled] at member; cases member
  | ref named => rw [show rules = [named] from spelled] at member; exact member
  | seq first second ihFirst ihSecond | join first second ihFirst ihSecond =>
      obtain ⟨xs, ys, one, two, rfl⟩ := spelled
      rcases List.mem_append.1 member with left | right
      · exact List.mem_append_left _ (ihFirst one left)
      · exact List.mem_append_right _ (ihSecond two right)
  | alt first second ihFirst ihSecond =>
      rcases spelled with one | two
      · exact List.mem_append_left _ (ihFirst one member)
      · exact List.mem_append_right _ (ihSecond two member)
  | opt inner ih =>
      rcases spelled with rfl | one
      · cases member
      · exact ih one member
  | again inner ih =>
      obtain ⟨rounds, all, rfl⟩ := spelled
      obtain ⟨round, among, inside⟩ := List.mem_flatten.1 member
      exact ih (all round among) inside

end Phrase

end Cql.Grammar
