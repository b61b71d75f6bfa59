import Cql.Proofs.Filter.Nesting
import Cql.Proofs.Grammar.Derivation
import Cql.Proofs.Grammar.FailurePlace

/-!
# The errors of a filter

A filter has a tree or a list of errors. After the first error the reading resumes behind a
connective, in a text that begins with brackets of its own, and what is found there is counted back
to the filter. The errors come from left to right all the same: a reading that resumes behind a
connective has left the last error behind, and each error stands between two characters of the
filter itself.
-/

namespace Cql.Filter

open Cql.Text Cql.Grammar

/-! ## Connectives -/

/-- A letter and its lower case have as many bytes. -/
theorem utf8Size_toLower (c : Char) : c.toLower.utf8Size = c.utf8Size := by
  by_cases upper : c.val ≥ 'A'.val ∧ c.val ≤ 'Z'.val
  · have least : 65 ≤ c.toNat := upper.1
    have most : c.toNat ≤ 90 := upper.2
    have table : ∀ n : Fin 26, (Char.ofNat (65 + n.val)).toLower.utf8Size
        = (Char.ofNat (65 + n.val)).utf8Size := by decide
    have same : Char.ofNat (65 + (c.toNat - 65)) = c := by
      rw [Nat.add_sub_of_le least, Char.ofNat_toNat]
    have entry := table ⟨c.toNat - 65, by omega⟩
    rwa [same] at entry
  · rw [show c.toLower = c from dif_neg upper]

/-- A word that was taken up to case has as many bytes as the word. -/
theorem byteSize_of_toLower {word taken : List Char}
    (same : taken.map Char.toLower = word.map Char.toLower) : byteSize taken = byteSize word := by
  have lower (cs : List Char) : byteSize (cs.map Char.toLower) = byteSize cs := by
    induction cs with
    | nil => rfl
    | cons c cs ih => rw [List.map_cons, byteSize_cons, byteSize_cons, utf8Size_toLower, ih]
  rw [← lower taken, same, lower]

/-- A word at the front of a text is followed by what is left. -/
theorem eq_append_of_afterWord? {word : String} {cs rest : List Char}
    (found : afterWord? word cs = some rest) :
    ∃ taken, cs = taken ++ rest ∧ taken.map Char.toLower = word.toList.map Char.toLower := by
  unfold afterWord? at found
  split at found
  · next taken left scanned =>
      split at found
      · cases found
      · cases found
        exact ⟨taken, eq_append_of_takeWord scanned, Pattern.map_toLower_of_takeWord scanned⟩
  · cases found

/-- A connective is one of two words, in any case, and has the bytes that it is said to have. -/
theorem eq_append_of_connective? {cs rest : List Char} {size : Nat}
    (found : connective? cs = some (size, rest)) :
    ∃ word, cs = word ++ rest ∧ size = byteSize word ∧ 2 ≤ size ∧
      word.map Char.toLower ∈ ["and".toList, "or".toList] := by
  unfold connective? at found
  split at found
  · next conjoins =>
      cases found
      obtain ⟨word, whole, letters⟩ := eq_append_of_afterWord? conjoins
      refine ⟨word, whole, (byteSize_of_toLower letters).symm, by decide, ?_⟩
      rw [letters]
      exact List.mem_cons_self
  · obtain ⟨left, disjoins, pair⟩ := Option.map_eq_some_iff.1 found
    cases pair
    obtain ⟨word, whole, letters⟩ := eq_append_of_afterWord? disjoins
    refine ⟨word, whole, (byteSize_of_toLower letters).symm, by decide, ?_⟩
    rw [letters]
    exact List.mem_cons_of_mem _ List.mem_cons_self

/-- Where the reading resumes: right behind a connective that begins at byte `start` or later,
outside quotes and where no word is going on, with the brackets that are open there. -/
theorem cases_of_resumptionFrom {start offset : Nat} {nesting : Nesting} {previous : Option Char}
    {text : List Char} {place : Resumption}
    (found : resumptionFrom start nesting previous offset text = some place) :
    ∃ before word, text = before ++ (word ++ place.rest) ∧ start ≤ offset + byteSize before ∧
      connective? (word ++ place.rest) = some (byteSize word, place.rest) ∧
      place.offset = offset + byteSize before + byteSize word ∧
      before.foldl Nesting.step nesting = ⟨none, place.depth⟩ ∧
      (before.getLast?.or previous).any isWordPart = false := by
  induction text generalizing nesting previous offset with
  | nil => cases found
  | cons c cs ih =>
      rcases resumptionFrom_cons with ⟨size, rest, unquoted, late, apart, here, stops⟩ | ⟨_, goesOn⟩
      · rw [stops] at found
        cases found
        obtain ⟨word, whole, rfl, _⟩ := eq_append_of_connective? here
        refine ⟨[], word, whole, late, ?_, rfl, ?_, apart⟩
        · rw [← whole]
          exact here
        · rw [List.foldl_nil, ← unquoted]
      · rw [goesOn] at found
        obtain ⟨before, word, whole, late, connects, place, nested, apart⟩ := ih found
        refine ⟨c :: before, word, ?_, ?_, connects, ?_, nested, ?_⟩
        · rw [whole, List.cons_append]
        · rw [byteSize_cons, ← Nat.add_assoc]
          exact late
        · rw [place, byteSize_cons, ← Nat.add_assoc offset]
        · cases before with
          | nil => exact apart
          | cons d before => rwa [List.getLast?_cons_cons]

/-- The reading resumes at least two bytes behind the place from which a connective is looked for,
and what is left to read is the end of the text. -/
theorem place_of_resumption {text : List Char} {start : Nat} {place : Resumption}
    (found : resumption text start = some place) :
    start + 2 ≤ place.offset ∧
      ∃ front, text = front ++ place.rest ∧ place.offset = byteSize front := by
  obtain ⟨before, word, whole, late, connects, there, _, _⟩ := cases_of_resumptionFrom found
  obtain ⟨_, _, _, least, _⟩ := eq_append_of_connective? connects
  refine ⟨by omega, before ++ word, ?_, ?_⟩
  · rw [whole, List.append_assoc]
  · rw [there, byteSize_append, Nat.zero_add]

/-! ## Counting back to the filter -/

theorem byteSize_brackets (depth : Nat) : byteSize (List.replicate depth '(') = depth := by
  induction depth with
  | zero => rfl
  | succ depth ih => rw [List.replicate_succ, byteSize_cons, ih, Nat.add_comm]; rfl

/-- A boundary of a text behind brackets is, without the brackets, a boundary of the text. One
among the brackets is taken to the start of the text. -/
theorem isBoundary_sub_brackets {depth offset : Nat} {text : List Char}
    (boundary : IsBoundary (List.replicate depth '(' ++ text) offset) :
    IsBoundary text (offset - depth) := by
  obtain ⟨before, after, whole, rfl⟩ := boundary
  rcases List.append_eq_append_iff.1 whole with ⟨gap, rfl, rfl⟩ | ⟨gap, brackets, _⟩
  · refine ⟨gap, after, rfl, ?_⟩
    rw [byteSize_append, byteSize_brackets, Nat.add_sub_cancel_left]
  · have bound := congrArg byteSize brackets
    rw [byteSize_append, byteSize_brackets] at bound
    rw [Nat.sub_eq_zero_of_le (by omega)]
    exact isBoundary_zero text

/-! ## Lists of errors -/

/-- The error stands between two characters of the text, at the position of its byte. -/
structure StandsIn (text : List Char) (error : SyntaxError) : Prop where
  boundary : IsBoundary text error.offset
  position : error.toPosition = positionAt text error.offset

/-- An error that is found after resuming stands in the filter, behind the place from which a
connective was looked for. -/
theorem standsIn_of_errorBehind? {text : List Char} {start : Nat} {error : SyntaxError}
    (found : errorBehind? text start = some error) :
    start < error.offset ∧ StandsIn text error := by
  unfold errorBehind? at found
  split at found
  · cases found
  · next place resumes =>
      split at found
      · cases found
      · next frontier refused =>
          cases found
          obtain ⟨later, front, whole, offset⟩ := place_of_resumption resumes
          have inner := isBoundary_sub_brackets (isBoundary_of_parse refused)
          have boundary : IsBoundary text (place.offset + (frontier.offset - place.depth)) := by
            rw [whole, offset]
            exact inner.after front
          constructor
          · change start < place.offset + (frontier.offset - place.depth)
            omega
          · exact ⟨boundary, rfl⟩

structure Ordered (text : List Char) (errors : List SyntaxError) : Prop where
  increasing : errors.Pairwise fun error later => error.offset < later.offset
  standing : ∀ error ∈ errors, StandsIn text error

theorem Ordered.nil (text : List Char) : Ordered text [] :=
  ⟨.nil, List.forall_mem_nil _⟩

/-- An error may be put in front of those that come behind it. -/
theorem Ordered.cons {text : List Char} {error : SyntaxError} {errors : List SyntaxError}
    (ordered : Ordered text errors) (stands : StandsIn text error)
    (behind : ∀ later ∈ errors, error.offset < later.offset) : Ordered text (error :: errors) where
  increasing := List.pairwise_cons.2 ⟨behind, ordered.increasing⟩
  standing := List.forall_mem_cons.2 ⟨stands, ordered.standing⟩

theorem Ordered.positions {text : List Char} {errors : List SyntaxError}
    (ordered : Ordered text errors) :
    errors.Pairwise fun error later => error.toPosition.Before later.toPosition := by
  refine ordered.increasing.imp_of_mem fun {error later} among among' less => ?_
  obtain ⟨boundary, position⟩ := ordered.standing error among
  obtain ⟨boundary', position'⟩ := ordered.standing later among'
  rw [position, position']
  exact positionAt_before boundary boundary' less

/-- The errors behind a byte are in order, stand behind it, and are no more than allowed. -/
theorem errorsBehind_ordered (text : List Char) (remaining offset : Nat) :
    Ordered text (errorsBehind text remaining offset) ∧
      (∀ error ∈ errorsBehind text remaining offset, offset < error.offset) ∧
      (errorsBehind text remaining offset).length ≤ remaining := by
  have empty (offset remaining : Nat) : Ordered text [] ∧
      (∀ error ∈ ([] : List SyntaxError), offset < error.offset) ∧
      ([] : List SyntaxError).length ≤ remaining :=
    ⟨.nil text, List.forall_mem_nil _, Nat.zero_le _⟩
  induction remaining generalizing offset with
  | zero =>
      rw [errorsBehind]
      exact empty offset 0
  | succ remaining ih =>
      rw [errorsBehind]
      split
      · exact empty offset _
      · next error found =>
          obtain ⟨behind, stands⟩ := standsIn_of_errorBehind? found
          obtain ⟨ordered, later, few⟩ := ih error.offset
          refine ⟨ordered.cons stands later, List.forall_mem_cons.2 ⟨behind, ?_⟩,
            Nat.succ_le_succ few⟩
          exact fun other among => Nat.lt_trans behind (later other among)

/-- A bracket that nests too deep stands at a boundary of the text. -/
theorem isBoundary_of_overdeepFrom {limit offset found : Nat} {nesting : Nesting}
    {text : List Char} (bound : nesting.depth ≤ limit)
    (overdeep : overdeepFrom limit nesting offset text = some found) :
    ∃ place, IsBoundary text place ∧ found = offset + place := by
  induction text generalizing nesting offset with
  | nil => cases overdeep
  | cons c cs ih =>
      rw [overdeepFrom_cons bound] at overdeep
      split at overdeep
      · cases overdeep
        exact ⟨0, isBoundary_zero _, rfl⟩
      · next shallow =>
          obtain ⟨place, boundary, rfl⟩ := ih (Nat.not_lt.1 shallow) overdeep
          refine ⟨c.utf8Size + place, boundary.after [c], ?_⟩
          rw [Nat.add_assoc]

/-! ## Reading a filter -/

theorem singleton_of_parse {text : List Char} {nodes : List Node}
    (found : Grammar.parse .cqlFilter text = .ok nodes) : ∃ tree, nodes = [tree] := by
  obtain ⟨_, spans⟩ := exists_spans_of_parse found
  obtain ⟨_, _, single, _⟩ := spans.branch rfl
  exact ⟨_, single⟩

/-- A filter nests too deep, or matches the grammar and has a tree, or does not match. -/
theorem parse_cases (filter : String) :
    (∃ offset, firstOverdeep filter.toList nestingLimit = some offset ∧
      parse filter = .error [SyntaxError.ofOffset filter.toList offset
        s!"maximum nesting depth of {nestingLimit} exceeded"]) ∨
    (firstOverdeep filter.toList nestingLimit = none ∧
      ∃ tree, Grammar.parse .cqlFilter filter.toList = .ok [tree] ∧ parse filter = .ok tree) ∨
    (firstOverdeep filter.toList nestingLimit = none ∧
      ∃ frontier, Grammar.parse .cqlFilter filter.toList = .error frontier ∧
        parse filter = .error (failureAt filter.toList frontier.offset frontier.rules
          :: errorsBehind filter.toList (errorLimit - 1) frontier.offset)) := by
  unfold parse parseChars
  cases nested : firstOverdeep filter.toList nestingLimit with
  | some offset => exact .inl ⟨offset, rfl, rfl⟩
  | none =>
      cases found : Grammar.parse .cqlFilter filter.toList with
      | ok nodes =>
          obtain ⟨tree, rfl⟩ := singleton_of_parse found
          exact .inr (.inl ⟨rfl, tree, rfl, rfl⟩)
      | error frontier => exact .inr (.inr ⟨rfl, frontier, rfl, rfl⟩)

/-- A filter has a tree if it does not nest too deep and matches the grammar. -/
theorem parse_eq_ok_iff {filter : String} {tree : Node} : parse filter = .ok tree ↔
    firstOverdeep filter.toList nestingLimit = none ∧
      Grammar.parse .cqlFilter filter.toList = .ok [tree] := by
  constructor
  · intro found
    rcases parse_cases filter with ⟨_, _, failed⟩ | ⟨shallow, _, read, parsed⟩ | ⟨_, _, _, failed⟩
    · cases failed.symm.trans found
    · cases parsed.symm.trans found
      exact ⟨shallow, read⟩
    · cases failed.symm.trans found
  · rintro ⟨shallow, read⟩
    rw [parse, parseChars, shallow]
    simp only [read]

/-- A filter is read, or it is refused by the bound on brackets or by the grammar and has errors: at
least one and no more than the limit, at boundaries of the filter that follow each other, as do
their lines and columns. -/
theorem parse_or_ordered_errors (filter : String) :
    (∃ tree, parse filter = .ok tree ∧ Grammar.parse .cqlFilter filter.toList = .ok [tree]) ∨
    ∃ errors, parse filter = .error errors ∧
      (firstOverdeep filter.toList nestingLimit ≠ none ∨
        ∃ frontier, Grammar.parse .cqlFilter filter.toList = .error frontier) ∧
      1 ≤ errors.length ∧ errors.length ≤ errorLimit ∧
      errors.Pairwise (fun error later => error.offset < later.offset) ∧
      errors.Pairwise (fun error later => error.toPosition.Before later.toPosition) ∧
      ∀ error ∈ errors, error.offset ≤ byteSize filter.toList ∧
        ∃ before after, filter.toList = before ++ after ∧ error.offset = byteSize before ∧
          error.toPosition = Position.after ⟨1, 1⟩ before := by
  have report {errors : List SyntaxError} (ordered : Ordered filter.toList errors) :
      ∀ error ∈ errors, error.offset ≤ byteSize filter.toList ∧
        ∃ before after, filter.toList = before ++ after ∧ error.offset = byteSize before ∧
          error.toPosition = Position.after ⟨1, 1⟩ before := by
    intro error among
    obtain ⟨boundary, position⟩ := ordered.standing error among
    refine ⟨boundary.le, ?_⟩
    obtain ⟨before, after, whole, offset⟩ := boundary
    refine ⟨before, after, whole, offset, ?_⟩
    rw [position, offset, whole, positionAt_append]
  rcases parse_cases filter with
    ⟨offset, nested, refused⟩ | ⟨_, tree, found, read⟩ | ⟨_, frontier, failed, refused⟩
  · obtain ⟨place, boundary, rfl⟩ := isBoundary_of_overdeepFrom (Nat.zero_le _) nested
    rw [Nat.zero_add] at refused
    have stands : StandsIn filter.toList (SyntaxError.ofOffset filter.toList place
        s!"maximum nesting depth of {nestingLimit} exceeded") := ⟨boundary, rfl⟩
    have ordered := (Ordered.nil filter.toList).cons stands (List.forall_mem_nil _)
    refine .inr ⟨_, refused, .inl ?_, Nat.le_refl 1, Nat.succ_pos _, ordered.increasing,
      ordered.positions, report ordered⟩
    rw [nested]
    exact Option.some_ne_none _
  · exact .inl ⟨tree, read, found⟩
  · obtain ⟨others, behind, few⟩ :=
      errorsBehind_ordered filter.toList (errorLimit - 1) frontier.offset
    have stands : StandsIn filter.toList
        (failureAt filter.toList frontier.offset frontier.rules) :=
      ⟨isBoundary_of_parse failed, rfl⟩
    have ordered := others.cons stands behind
    exact .inr ⟨_, refused, .inr ⟨frontier, failed⟩, Nat.succ_pos _, Nat.succ_le_succ few,
      ordered.increasing, ordered.positions, report ordered⟩

end Cql.Filter
