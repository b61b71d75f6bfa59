import Cql.Compile.State
import Cql.Proofs.Compile.FreshName
import Cql.Proofs.Grammar.Token
import Cql.Proofs.Sql.Placeholder

/-!
# Names over a run

A compilation is called again and again: operands come and go, values are bound, properties are
checked, failures are noted. Only binding a value touches the parameters. It adds one under a name
that is not in use, whatever the source of random numbers yields, and gives up exactly when every
name is in use. Along a run the names therefore stay different from each other, and there are as
many of them as values were to be bound, until no name is left.
-/

namespace Cql

open Cql.Sql

namespace ParameterName

/-! ## The form of a name -/

theorem letter_of_isLower {c : Char} (lower : c.isLower = true) : letter (c.toNat - 97) = c := by
  obtain ⟨least, most⟩ := Grammar.isLower_iff.1 lower
  have small : c.toNat - 97 < 26 := by omega
  change Char.ofNat (97 + (c.toNat - 97) % 26) = c
  rw [Nat.mod_eq_of_lt small, Nat.add_sub_of_le least, Char.ofNat_toNat]

theorem exists_letters {chars : List Char} (four : chars.length = 4)
    (lower : ∀ c ∈ chars, c.isLower = true) :
    ∃ letters : Letters, letters.val.map letter = chars := by
  refine ⟨⟨chars.map fun c => c.toNat - 97, (List.length_map _).trans four⟩, ?_⟩
  rw [List.map_map]
  refine (List.map_congr_left fun c among => ?_).trans (List.map_id chars)
  exact letter_of_isLower (lower c among)

/-- The names are all the texts of their form. -/
theorem isName_iff {name : String} : IsName name ↔ ∃ index < nameCount, name = ofIndex index := by
  constructor
  · rintro ⟨chars, four, lower, shape⟩
    obtain ⟨letters, rfl⟩ := exists_letters four lower
    have spelt : (spell letters).toList = "cql_".toList ++ letters.val.map letter :=
      String.toList_ofList
    refine ⟨index letters, index_lt letters, ?_⟩
    exact (String.toList_inj.1 (shape.trans spelt.symm)).trans (spell_eq_ofIndex letters)
  · rintro ⟨index, _, rfl⟩
    exact isName_ofIndex index

end ParameterName

namespace Compilation

open ParameterName

def names (state : Compilation) : List String :=
  state.params.map Prod.fst

theorem isBound_eq_false_iff {state : Compilation} {name : String} :
    state.isBound name = false ↔ name ∉ state.names := by
  rw [Bool.eq_false_iff, ne_eq, not_iff_not]
  simp [isBound, names]

/-! ## Binding a value -/

/-- A value is bound under a name that is not in use and keeps the state but for that. -/
structure Adds (sigil : Char) (value : String) (state : Compilation)
    (bound : Fragment × Compilation) (name : String) : Prop where
  named : IsName name
  free : name ∉ state.names
  placeholder : bound.1.render = String.singleton sigil ++ name
  params : bound.2.params = state.params ++ [(name, value)]
  stack : bound.2.stack = state.stack
  failure : bound.2.failure = state.failure

/-- A value is not bound, and what went wrong is that no name is left, unless something did
before. -/
structure GivesUp (state : Compilation) (bound : Fragment × Compilation) : Prop where
  placeholder : bound.1.render = ""
  params : bound.2.params = state.params
  stack : bound.2.stack = state.stack
  failure : bound.2.failure
    = some (state.failure.getD (.fault "bound parameter names exhausted"))

/-- Every name is in use. -/
def IsFull (state : Compilation) : Prop :=
  ∀ name, IsName name → name ∈ state.names

theorem bind_cases (sigil : Char) (draws : Draws) (state : Compilation) (value : String) :
    (∃ name, Adds sigil value state (state.bind sigil draws value) name) ∨
      (state.IsFull ∧ GivesUp state (state.bind sigil draws value)) := by
  unfold bind
  split
  · next name drawn found =>
      obtain ⟨free, named⟩ := free_of_fresh found
      refine .inl ⟨name, isName_iff.2 named, isBound_eq_false_iff.1 free, ?_, rfl, rfl, rfl⟩
      rw [Fragment.render_cons, Fragment.render_nil, Piece.render, String.append_empty]
  · next drawn missed =>
      refine .inr ⟨fun name named => ?_, Fragment.render_nil, rfl, rfl, ?_⟩
      · obtain ⟨index, bound, rfl⟩ := isName_iff.1 named
        have taken := taken_of_fresh missed bound
        refine Decidable.byContradiction fun absent => ?_
        rw [isBound_eq_false_iff.2 absent] at taken
        cases taken
      · simp only [fail]
        cases state.failure <;> rfl

/-! ## Runs -/

inductive Call where
  | push (operand : Operand)
  | pop
  | splitTop (n : Nat)
  | bind (value : String)
  | require (property : String)
  | fail (reason : CompileError)

def Call.binds : Call → Bool
  | .bind _ => true
  | .push _ | .pop | .splitTop _ | .require _ | .fail _ => false

def call (sigil : Char) (draws : Draws) (queryables : Queryables) (state : Compilation) :
    Call → Compilation
  | .push operand => state.push operand
  | .pop => state.pop.2
  | .splitTop n => (state.splitTop n).2
  | .bind value => (state.bind sigil draws value).2
  | .require property => (state.require queryables property).2
  | .fail reason => state.fail reason

def run (sigil : Char) (draws : Draws) (queryables : Queryables) (state : Compilation)
    (calls : List Call) : Compilation :=
  calls.foldl (call sigil draws queryables) state

variable {sigil : Char} {draws : Draws} {queryables : Queryables} {state : Compilation}

/-- All calls but those for a value to be bound leave the parameters as they are. -/
theorem params_call {step : Call} (silent : step.binds = false) :
    (state.call sigil draws queryables step).params = state.params := by
  cases step with
  | bind value => cases silent
  | require property =>
      simp only [call, require]
      split <;> rfl
  | push _ | pop | splitTop _ | fail _ => rfl

theorem prefix_call (step : Call) :
    state.params <+: (state.call sigil draws queryables step).params := by
  cases step with
  | bind value =>
      rcases bind_cases sigil draws state value with ⟨name, adds⟩ | ⟨_, givesUp⟩
      · exact ⟨_, adds.params.symm⟩
      · exact ⟨[], (List.append_nil _).trans givesUp.params.symm⟩
  | _ => exact ⟨[], (List.append_nil _).trans (params_call rfl).symm⟩

theorem prefix_run (calls : List Call) :
    state.params <+: (state.run sigil draws queryables calls).params := by
  induction calls generalizing state with
  | nil => exact List.prefix_rfl
  | cons step calls ih => exact (prefix_call step).trans ih

/-- The names are different from each other, and there are as many as values were to be bound, until
no name is left. -/
structure Tallies (count : Nat) (state : Compilation) : Prop where
  distinct : Distinct state.names
  length : state.params.length = min count nameCount

namespace Tallies

variable {count : Nat}

theorem start : Tallies 0 {} :=
  ⟨⟨List.nodup_nil, List.forall_mem_nil _⟩, rfl⟩

/-- Every name is in use exactly when there are as many parameters as names. -/
theorem isFull_iff (tallies : Tallies count state) :
    state.IsFull ↔ state.params.length = nameCount := by
  have length : state.names.length = state.params.length := List.length_map ..
  have most : state.params.length ≤ nameCount := tallies.length ▸ Nat.min_le_right ..
  have enough : state.params.length = nameCount ↔ nameCount ≤ state.params.length :=
    ⟨fun same => Nat.le_of_eq same.symm, Nat.le_antisymm most⟩
  rw [enough, ← length, ← tallies.distinct.all_iff]
  constructor
  · exact fun full index bound => full _ (isName_iff.2 ⟨index, bound, rfl⟩)
  · intro all name named
    obtain ⟨index, bound, rfl⟩ := isName_iff.1 named
    exact all index bound

theorem room (tallies : Tallies count state) {value name : String}
    {bound : Fragment × Compilation} (adds : Adds sigil value state bound name) :
    count < nameCount := by
  refine Nat.lt_of_not_le fun most => adds.free ?_
  refine tallies.isFull_iff.2 ?_ name adds.named
  rw [tallies.length, Nat.min_eq_right most]

theorem of_params (tallies : Tallies count state) {next : Compilation}
    (same : next.params = state.params) : Tallies count next where
  distinct := by rw [names, same]; exact tallies.distinct
  length := by rw [same]; exact tallies.length

theorem add (tallies : Tallies count state) {value name : String}
    {bound : Fragment × Compilation} (adds : Adds sigil value state bound name) :
    Tallies (count + 1) bound.2 := by
  have room := tallies.room adds
  have length := tallies.length
  obtain ⟨index, named, rfl⟩ := isName_iff.1 adds.named
  constructor
  · have more : bound.2.names = state.names ++ [ofIndex index] := by
      rw [names, adds.params, List.map_append]
      rfl
    rw [more]
    exact tallies.distinct.concat adds.free named
  · rw [adds.params, List.length_append, List.length_singleton]
    omega

/-- A call keeps the tally. -/
theorem call (tallies : Tallies count state) (step : Call) :
    Tallies (count + if step.binds then 1 else 0) (state.call sigil draws queryables step) := by
  cases kind : step.binds with
  | false => exact tallies.of_params (params_call kind)
  | true =>
      cases step with
      | bind value =>
          rcases bind_cases sigil draws state value with ⟨name, adds⟩ | ⟨full, givesUp⟩
          · exact tallies.add adds
          · have kept := tallies.of_params givesUp.params
            have length := tallies.length
            have most := tallies.isFull_iff.1 full
            refine ⟨kept.distinct, kept.length.trans ?_⟩
            simp only [if_true]
            omega
      | _ => cases kind

/-- A run keeps the tally. -/
theorem run (tallies : Tallies count state) (calls : List Call) :
    Tallies (count + calls.countP Call.binds) (state.run sigil draws queryables calls) := by
  induction calls generalizing state count with
  | nil => exact tallies
  | cons step calls ih =>
      rw [List.countP_cons, Nat.add_comm (calls.countP _), ← Nat.add_assoc]
      exact ih (tallies.call step)

end Tallies

/-- At every point of a run the parameters have different names of their form, one for each value
that was to be bound until no name was left, and later calls keep them. A value to be bound is added
under a further name, unless every name is in use: then binding gives up. No other call touches the
parameters. -/
theorem run_names_unique (sigil : Char) (draws : Draws) (queryables : Queryables)
    (calls : List Call) :
    let state := run sigil draws queryables {} calls
    (state.names.Nodup ∧ ∀ name ∈ state.names, IsName name) ∧
    state.params.length = min (calls.countP Call.binds) nameCount ∧
    (state.IsFull ↔ state.params.length = nameCount) ∧
    (∀ value,
      (¬state.IsFull → ∃ name, Adds sigil value state (state.bind sigil draws value) name) ∧
      (state.IsFull → GivesUp state (state.bind sigil draws value))) ∧
    (∀ step : Call, step.binds = false →
      (state.call sigil draws queryables step).params = state.params) ∧
    ∀ more, state.params <+: (run sigil draws queryables {} (calls ++ more)).params := by
  intro state
  have tallies : Tallies (calls.countP Call.binds) state := by
    have whole : Tallies (0 + calls.countP Call.binds) state := Tallies.start.run calls
    rwa [Nat.zero_add] at whole
  refine ⟨⟨tallies.distinct.nodup, fun name among => ?_⟩, tallies.length, tallies.isFull_iff,
    fun value => ?_, fun step => params_call, fun more => ?_⟩
  · exact isName_iff.2 (tallies.distinct.named name among)
  · rcases bind_cases sigil draws state value with ⟨name, adds⟩ | ⟨full, givesUp⟩
    · exact ⟨fun _ => ⟨name, adds⟩, fun full => absurd (full name adds.named) adds.free⟩
    · exact ⟨fun room => absurd full room, fun _ => givesUp⟩
  · rw [run, List.foldl_append]
    exact prefix_run more

/-- Once as many values were bound as there are names, no further one is, though every draw is out
of range and spells `zzzz`. -/
theorem run_names_unique_exhausted :
    let draws : Draws := fun _ => 51
    let state := run ':' draws .unrestricted {} (List.replicate nameCount (.bind "1"))
    state.IsFull ∧ GivesUp state (state.bind ':' draws "2") := by
  intro draws state
  obtain ⟨_, length, full, bind, _⟩ :=
    run_names_unique ':' draws .unrestricted (List.replicate nameCount (.bind "1"))
  have counted (n : Nat) : (List.replicate n (Call.bind "1")).countP Call.binds = n :=
    List.countP_replicate.trans (if_pos rfl)
  have all : state.IsFull := by
    refine full.2 (length.trans ?_)
    rw [counted, Nat.min_self]
  exact ⟨all, (bind "2").2 all⟩

end Compilation

end Cql
