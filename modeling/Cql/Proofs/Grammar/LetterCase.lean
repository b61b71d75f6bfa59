import Cql.Proofs.Grammar.TokenKind

/-!
# The case of letters

No pattern of the grammar asks for the case of a letter: what it names by a fixed text are marks and
digits, and letters are named without their case or by a class that has both. A pattern therefore
takes as much of a text whatever the case of its letters.
-/

namespace Cql.Grammar

variable {c d : Char} {cs ds taken taken' left left' : List Char}

/-! ## Characters -/

/-- Two characters that agree up to case are one character or two letters. -/
theorem eq_or_isAlpha (same : c.toLower = d.toLower) :
    c = d ∨ c.isAlpha = true ∧ d.isAlpha = true := by
  have letters {x y : Char} (upper : x.isUpper = true) (sum : x.toLower.toNat = x.toNat + 32)
      (same : x.toLower = y.toLower) : x.isAlpha = true ∧ y.isAlpha = true := by
    have range := isUpper_iff.1 upper
    have lower : x.toLower.isLower = true := isLower_iff.2 (by omega)
    exact ⟨isAlpha_of_toLower lower, isAlpha_of_toLower (same ▸ lower)⟩
  rcases toLower_cases c with fixed | ⟨upper, sum⟩
  · rcases toLower_cases d with fixed' | ⟨upper, sum⟩
    · exact .inl (fixed.symm.trans (same.trans fixed'))
    · exact .inr (letters upper sum same.symm).symm
  · exact .inr (letters upper sum same)

/-- A character that is no letter is the same in every case. -/
theorem eq_mark_iff {mark : Char} (same : c.toLower = d.toLower) (plain : mark.isAlpha = false) :
    c = mark ↔ d = mark := by
  rcases eq_or_isAlpha same with rfl | ⟨alpha, alpha'⟩
  · rfl
  · refine iff_of_false ?_ ?_ <;> rintro rfl <;> simp_all

theorem CharClass.contains_of_toLower (cls : CharClass) (same : c.toLower = d.toLower) :
    cls.contains c = cls.contains d := by
  rcases eq_or_isAlpha same with rfl | ⟨alpha, alpha'⟩
  · rfl
  · cases cls with
    | any => rfl
    | digit =>
        have plain {x : Char} (alpha : x.isAlpha = true) : x.isDigit = false := by
          have letter := isAlpha_iff.1 alpha
          rw [Bool.eq_false_iff, ne_eq, Char.isDigit_iff_toNat, show '0'.toNat = 48 from rfl,
            show '9'.toNat = 57 from rfl]
          omega
        exact (plain alpha).trans (plain alpha').symm
    | identifierStart =>
        exact (isIdentifierStart_of_isAlpha alpha).trans (isIdentifierStart_of_isAlpha alpha').symm
    | identifierContinue =>
        have continues {x : Char} (alpha : x.isAlpha = true) : Text.isIdentifierContinue x = true :=
          isIdentifierContinue_of_isIdentifierStart (isIdentifierStart_of_isAlpha alpha)
        exact (continues alpha).trans (continues alpha').symm

/-! ## Texts -/

theorem lowered_append (first second : List Char) :
    lowered (first ++ second) = lowered first ++ lowered second :=
  List.map_append

theorem length_of_lowered (same : lowered cs = lowered ds) : cs.length = ds.length := by
  simpa [lowered] using congrArg List.length same

theorem lowered_cons (same : lowered (c :: cs) = lowered ds) :
    ∃ d rest, ds = d :: rest ∧ c.toLower = d.toLower ∧ lowered cs = lowered rest := by
  cases ds with
  | nil => cases same
  | cons d rest => exact ⟨d, rest, rfl, (List.cons.inj same).1, (List.cons.inj same).2⟩

/-! ## Patterns -/

namespace Pattern

/-- Whether the pattern does not ask for the case of letters. -/
def isCaseless : Pattern → Bool
  | .literal word => word.toList.all fun c => !c.isAlpha
  | .caseless _ | .one _ => true
  | .seq first second | .alt first second => first.isCaseless && second.isCaseless
  | .opt inner | .many inner | .not inner => inner.isCaseless

/-- What was found in two texts agrees up to case, or nothing was. -/
abbrev Recased : Option (List Char × List Char) → Option (List Char × List Char) → Prop :=
  Option.Rel fun found found' => lowered found.1 = lowered found'.1 ∧
    lowered found.2 = lowered found'.2

theorem takeWord_recased {same : Char → Char → Bool} {word : List Char}
    (blind : ∀ w ∈ word, ∀ {c d : Char}, c.toLower = d.toLower → same w c = same w d)
    (agree : lowered cs = lowered ds) :
    Recased (takeWord same word cs) (takeWord same word ds) := by
  induction word generalizing cs ds with
  | nil => exact .some ⟨rfl, agree⟩
  | cons w ws ih =>
      cases cs with
      | nil =>
          rw [List.map_eq_nil_iff.1 agree.symm]
          exact .none
      | cons c cs =>
          obtain ⟨d, rest, rfl, letter, others⟩ := lowered_cons agree
          simp only [takeWord, blind w List.mem_cons_self letter]
          split
          · have inner := ih (fun w among => blind w (List.mem_cons_of_mem _ among)) others
            generalize takeWord same ws cs = one at inner ⊢
            generalize takeWord same ws rest = two at inner ⊢
            cases inner with
            | none => exact .none
            | some agree =>
                refine .some ⟨?_, agree.2⟩
                rw [lowered, lowered, List.map_cons, List.map_cons, letter]
                exact congrArg _ agree.1
          · exact .none

theorem scanRounds_recased {scan : List Char → Option (List Char × List Char)}
    (blind : ∀ {cs ds}, lowered cs = lowered ds → Recased (scan cs) (scan ds))
    {limit limit' : List Char} (rounds : limit.length = limit'.length)
    (agree : lowered cs = lowered ds) :
    lowered (scanRounds scan limit cs).1 = lowered (scanRounds scan limit' ds).1 ∧
      lowered (scanRounds scan limit cs).2 = lowered (scanRounds scan limit' ds).2 := by
  induction limit generalizing limit' cs ds with
  | nil =>
      rw [List.length_eq_zero_iff.1 rounds.symm]
      exact ⟨rfl, agree⟩
  | cons _ limit ih =>
      obtain ⟨_, limit', rfl⟩ := List.exists_cons_of_length_eq_add_one rounds.symm
      have round := blind agree
      simp only [scanRounds]
      generalize scan cs = one at round ⊢
      generalize scan ds = two at round ⊢
      cases round with
      | none => exact ⟨rfl, agree⟩
      | @some found found' agree =>
          have more := ih (Nat.succ.inj rounds) agree.2
          exact ⟨by simp only [lowered_append, agree.1, more.1], more.2⟩

/-- A pattern takes as much of a text whatever the case of its letters. -/
theorem scan_recased {pattern : Pattern} (caseless : pattern.isCaseless = true)
    (agree : lowered cs = lowered ds) : Recased (pattern.scan cs) (pattern.scan ds) := by
  induction pattern generalizing cs ds with
  | literal word =>
      refine takeWord_recased (fun w among c d letter => ?_) agree
      have plain := List.all_eq_true.1 caseless w among
      rw [Bool.not_eq_true'] at plain
      rcases eq_or_isAlpha letter with rfl | ⟨alpha, alpha'⟩
      · rfl
      · have other {x : Char} (alpha : x.isAlpha = true) : (w == x) = false := by
          refine beq_false_of_ne ?_
          rintro rfl
          rw [plain] at alpha
          cases alpha
        rw [other alpha, other alpha']
  | caseless word =>
      exact takeWord_recased (fun w _ c d letter => by rw [Text.sameLetter, letter]; rfl) agree
  | one cls =>
      cases cs with
      | nil =>
          rw [List.map_eq_nil_iff.1 agree.symm]
          exact .none
      | cons c cs =>
          obtain ⟨d, rest, rfl, letter, others⟩ := lowered_cons agree
          simp only [scan, cls.contains_of_toLower letter]
          split
          · exact .some ⟨congrArg (· :: []) letter, others⟩
          · exact .none
  | seq first second ihFirst ihSecond =>
      obtain ⟨one, two⟩ := Bool.and_eq_true_iff.1 caseless
      have front := ihFirst one agree
      simp only [scan]
      generalize first.scan cs = here at front ⊢
      generalize first.scan ds = there at front ⊢
      cases front with
      | none => exact .none
      | @some found found' agree =>
          have back := ihSecond two agree.2
          change Recased ((second.scan found.2).map _) ((second.scan found'.2).map _)
          generalize second.scan found.2 = here at back ⊢
          generalize second.scan found'.2 = there at back ⊢
          cases back with
          | none => exact .none
          | some last => exact .some ⟨by simp only [lowered_append, agree.1, last.1], last.2⟩
  | alt first second ihFirst ihSecond =>
      obtain ⟨one, two⟩ := Bool.and_eq_true_iff.1 caseless
      have front := ihFirst one agree
      simp only [scan]
      generalize first.scan cs = here at front ⊢
      generalize first.scan ds = there at front ⊢
      cases front with
      | none => exact ihSecond two agree
      | some agree => exact .some agree
  | opt inner ih =>
      have round := ih caseless agree
      simp only [scan]
      generalize inner.scan cs = here at round ⊢
      generalize inner.scan ds = there at round ⊢
      cases round with
      | none => exact .some ⟨rfl, agree⟩
      | some agree => exact .some agree
  | many inner ih =>
      exact .some (scanRounds_recased (ih caseless) (length_of_lowered agree) agree)
  | not inner ih =>
      have round := ih caseless agree
      simp only [scan]
      generalize inner.scan cs = here at round ⊢
      generalize inner.scan ds = there at round ⊢
      cases round with
      | none => exact .some ⟨rfl, agree⟩
      | some _ => exact .none

/-- A pattern that stands at the front of a text stands there when the case of letters changes. -/
theorem scan_recase {pattern : Pattern} (caseless : pattern.isCaseless = true)
    (found : pattern.scan (taken ++ left) = some (taken, left))
    (agree : lowered taken = lowered taken') (rest : lowered left = lowered left') :
    pattern.scan (taken' ++ left') = some (taken', left') := by
  have whole : lowered (taken ++ left) = lowered (taken' ++ left') := by
    rw [lowered_append, lowered_append, agree, rest]
  have both := scan_recased caseless whole
  rw [found] at both
  cases other : pattern.scan (taken' ++ left') with
  | none =>
      rw [other] at both
      cases both
  | some pair =>
      rw [other] at both
      cases both with
      | some same =>
          have size := (length_of_lowered agree).symm.trans (length_of_lowered same.1)
          obtain ⟨rfl, rfl⟩ := List.append_inj (pattern.eq_append_of_scan other) size
          rfl

end Pattern

end Cql.Grammar
