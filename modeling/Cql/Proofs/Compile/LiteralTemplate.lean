import Cql.Proofs.Compile.UsedParameters
import Cql.Proofs.Grammar.Depth

/-!
# The placement of literals

Numbers and truth values are bound or part of the text, as the setting says, and that is all that it
decides. For any two placements, a filter has one template, which is SQL with numbered places for
its literals. Under each placement the SQL is the template with the literals in their places: a
literal that is bound is a placeholder, converted to a number where the dialect needs it, and one
that is part of the text is the text itself. Whether a filter compiles, and why it does not, is the
same under both, as long as there are names left.
-/

namespace Cql

open Cql.Sql Cql.Grammar

/-! ## Templates with places for literals -/

inductive ShownLiteral where
  /-- As part of the text. -/
  | inline (text : String)
  /-- As the placeholder of the parameter with the given name. -/
  | bound (name : String)
  deriving DecidableEq, Repr

namespace ShownLiteral

def name? : ShownLiteral → Option String
  | .inline _ => none
  | .bound name => some name

/-- The literal in SQL; `typed` says that a placeholder is given the type of a number, where the
dialect has to be told. -/
def sql (dialect : Dialect) (typed : Bool) : ShownLiteral → Fragment
  | .inline text => text
  | .bound name =>
      if typed then dialect.castScalar [.placeholder dialect.sigil name]
      else [.placeholder dialect.sigil name]

end ShownLiteral

inductive LiteralPart where
  /-- Text that stands as it is. -/
  | text (sql : String)
  /-- A column, by its name. -/
  | column (name : String)
  /-- A place for the literal with the given number. -/
  | literal (number : Nat) (typed : Bool)
  deriving DecidableEq, Repr

abbrev LiteralTemplate := List LiteralPart

def LiteralPart.fill (dialect : Dialect) (shown : List ShownLiteral) : LiteralPart → Fragment
  | .text sql => sql
  | .column name => [.column name]
  | .literal number typed => (shown[number]?.map (ShownLiteral.sql dialect typed)).getD []

def LiteralTemplate.fill (dialect : Dialect) (shown : List ShownLiteral)
    (template : LiteralTemplate) : Fragment :=
  template.flatMap (LiteralPart.fill dialect shown)

abbrev ShownLiterals := List (Node × ShownLiteral)

namespace ShownLiterals

/-- The given literals were passed after others. -/
def Extends (entries : ShownLiterals) (nodes : List Node) (longer : ShownLiterals) : Prop :=
  ∃ more, longer = entries ++ more ∧ more.map Prod.fst = nodes

theorem Extends.refl (entries : ShownLiterals) : entries.Extends [] entries :=
  ⟨[], by simp⟩

theorem Extends.trans {first second third : ShownLiterals} {nodes others : List Node}
    (front : first.Extends nodes second) (back : second.Extends others third) :
    first.Extends (nodes ++ others) third := by
  obtain ⟨more, rfl, rfl⟩ := front
  obtain ⟨rest, rfl, rfl⟩ := back
  exact ⟨more ++ rest, by simp⟩

theorem Extends.concat (entries : ShownLiterals) (node : Node) (shown : ShownLiteral) :
    entries.Extends [node] (entries ++ [(node, shown)]) :=
  ⟨[(node, shown)], rfl, rfl⟩

theorem Extends.subset {entries longer : ShownLiterals} {nodes : List Node}
    (passed : entries.Extends nodes longer) : entries ⊆ longer := by
  obtain ⟨more, rfl, _⟩ := passed
  exact List.subset_append_left _ _

variable {dialect : Dialect} {entries more : ShownLiterals} {number : Nat}
  {entry : Node × ShownLiteral}

theorem getElem?_append (here : entries[number]? = some entry) :
    (entries ++ more)[number]? = some entry := by
  obtain ⟨bound, _⟩ := List.getElem?_eq_some_iff.1 here
  rw [List.getElem?_append_left bound, here]

theorem fill_literal (here : entries[number]? = some entry) (typed : Bool) :
    (LiteralPart.literal number typed).fill dialect (entries.map Prod.snd)
      = entry.2.sql dialect typed := by
  simp [LiteralPart.fill, here]

/-- Further literals do not show in a template that has no places for them. -/
theorem fill_append {template : LiteralTemplate} (within : ∀ number typed,
      .literal number typed ∈ template → ∃ entry, entries[number]? = some entry) :
    template.fill dialect (entries.map Prod.snd)
      = template.fill dialect ((entries ++ more).map Prod.snd) := by
  refine List.flatMap_congr fun part among => ?_
  cases part with
  | text sql => rfl
  | column name => rfl
  | literal number typed =>
      obtain ⟨entry, here⟩ := within number typed among
      rw [fill_literal here, fill_literal (getElem?_append here)]

end ShownLiterals

/-- Fixed text is inert, and the places are those of literals. Only a number or a truth value is
given a type. -/
def LiteralPart.Within (first second : ShownLiterals) : LiteralPart → Prop
  | .text sql => isInert sql = true
  | .column _ => True
  | .literal number typed => ∃ literal here there, first[number]? = some (literal, here) ∧
      second[number]? = some (literal, there) ∧ (typed = true → literal.rule.isScalar = true)

structure Sql.Fragment.SameTemplate (dialect : Dialect) (first second : ShownLiterals)
    (sql other : Fragment) : Prop where
  template : ∃ template : LiteralTemplate, (∀ part ∈ template, part.Within first second) ∧
    sql = template.fill dialect (first.map Prod.snd) ∧
    other = template.fill dialect (second.map Prod.snd)
  empty : sql.render = "" ↔ other.render = ""

namespace Sql.Fragment.SameTemplate

variable {dialect : Dialect} {first second : ShownLiterals}

theorem part {part : LiteralPart} (within : part.Within first second)
    (empty : (part.fill dialect (first.map Prod.snd)).render = "" ↔
      (part.fill dialect (second.map Prod.snd)).render = "") :
    SameTemplate dialect first second (part.fill dialect (first.map Prod.snd))
      (part.fill dialect (second.map Prod.snd)) := by
  refine ⟨⟨[part], fun other among => ?_, ?_, ?_⟩, empty⟩
  · rw [List.mem_singleton.1 among]
    exact within
  · simp [LiteralTemplate.fill]
  · simp [LiteralTemplate.fill]

theorem pairing : InertPairing (SameTemplate dialect first second) where
  nil := ⟨⟨[], by simp, rfl, rfl⟩, Iff.rfl⟩
  append := by
    rintro _ _ _ _ ⟨⟨front, inFront, rfl, rfl⟩, empty⟩ ⟨⟨back, inBack, rfl, rfl⟩, empty'⟩
    refine ⟨⟨front ++ back, fun part among => ?_, ?_, ?_⟩, ?_⟩
    · exact (List.mem_append.1 among).elim (inFront part) (inBack part)
    · simp [LiteralTemplate.fill]
    · simp [LiteralTemplate.fill]
    · simp only [render_append, String.append_eq_empty_iff, empty, empty']
  text {sql} fixed :=
    part (show (LiteralPart.text sql).Within first second from isInert_of_isFixed fixed) Iff.rfl
  inert {sql} inert :=
    part (show (LiteralPart.text sql).Within first second from inert) Iff.rfl
  column name := part (show (LiteralPart.column name).Within first second from trivial) Iff.rfl
  empty paired := paired.empty

/-- Further literals make no difference to a template. -/
theorem extend {more more' : ShownLiterals} {sql other : Fragment}
    (same : SameTemplate dialect first second sql other) :
    SameTemplate dialect (first ++ more) (second ++ more') sql other := by
  obtain ⟨⟨template, within, rfl, rfl⟩, empty⟩ := same
  refine ⟨⟨template, fun part among => ?_, ?_, ?_⟩, empty⟩
  · have known := within part among
    cases part with
    | text sql => exact known
    | column name => trivial
    | literal number typed =>
        obtain ⟨literal, here, there, one, two, scalar⟩ := known
        exact ⟨literal, here, there, ShownLiterals.getElem?_append one,
          ShownLiterals.getElem?_append two, scalar⟩
  · refine ShownLiterals.fill_append fun number typed among => ?_
    obtain ⟨literal, here, there, one, two, scalar⟩ := within _ among
    exact ⟨_, one⟩
  · refine ShownLiterals.fill_append fun number typed among => ?_
    obtain ⟨literal, here, there, one, two, scalar⟩ := within _ among
    exact ⟨_, two⟩

end Sql.Fragment.SameTemplate

/-! ## Literals in two translations -/

def Node.shownOperand (literal : Node) (dialect : Dialect) : ShownLiteral → Operand
  | .inline text => .scalar text false
  | .bound name => literal.boundOperand [.placeholder dialect.sigil name]

namespace Setting

/-- A literal stands in the SQL as its placement says. -/
def Shows (setting : Setting) (literal : Node) : ShownLiteral → Prop
  | .inline text => setting.placement literal = .inline ∧ text = literal.inlineText
  | .bound _ => setting.placement literal = .bound

/-- The literals that a translation has passed stand in the SQL as their placement says, and those
that are bound are the parameters, each with its own value. -/
structure Passed (setting : Setting) (entries : ShownLiterals) (bindings : Bindings) : Prop where
  shows : ∀ entry ∈ entries, setting.Shows entry.1 entry.2
  params : bindings.params = entries.filterMap fun entry =>
    entry.2.name?.map fun name => (name, setting.boundValue entry.1)
  distinct : ParameterName.Distinct bindings.names

variable {setting : Setting} {entries : ShownLiterals} {before : Bindings} {node : Node}

theorem Passed.start : setting.Passed [] {} :=
  ⟨fun _ among => absurd among List.not_mem_nil, rfl, Bindings.Twin.start.distinct⟩

/-- A translation passes a literal, unless it has to bind it and there is no name left. -/
theorem Passed.literal (passed : setting.Passed entries before) (formed : node.Formed)
    (literal : node.rule.isLiteral = true) :
    setting.assemble (setting.action false node) [] before
      = .error (.fault "bound parameter names exhausted") ∨
    ∃ (shown : ShownLiteral) (after : Bindings),
      setting.assemble (setting.action false node) [] before
        = .ok ([node.shownOperand setting.dialect shown], after) ∧
      setting.Shows node shown ∧ setting.Passed (entries ++ [(node, shown)]) after := by
  have grown {shown : ShownLiteral} (shows : setting.Shows node shown) :
      ∀ entry ∈ entries ++ [(node, shown)], setting.Shows entry.1 entry.2 := by
    intro entry among
    rcases List.mem_append.1 among with earlier | here
    · exact passed.shows entry earlier
    · rw [List.mem_singleton.1 here]
      exact shows
  cases placed : setting.placement node with
  | inline =>
      have shows : setting.Shows node (.inline node.inlineText) := ⟨placed, rfl⟩
      rw [action_of_inline placed]
      refine .inr ⟨.inline node.inlineText, before, rfl, shows, grown shows, ?_, passed.distinct⟩
      rw [passed.params, List.filterMap_append]
      simp [ShownLiteral.name?]
  | bound =>
      rw [action_of_bound formed literal placed]
      simp only [assemble]
      cases bound : before.bind setting.dialect.sigil setting.draws (setting.boundValue node) with
      | error reason =>
          obtain ⟨rfl, _⟩ := Bindings.exhausted_of_bind passed.distinct bound
          exact .inl rfl
      | ok pair =>
          obtain ⟨distinct, _, _⟩ := Bindings.names_of_bind passed.distinct bound
          obtain ⟨name, drawn, _, placeholder, after⟩ := Bindings.fresh_of_bind_ok bound
          have shows : setting.Shows node (.bound name) := placed
          refine .inr ⟨.bound name, pair.2, ?_, shows, grown shows, ?_, distinct⟩
          · rw [Node.shownOperand, ← placeholder]
            rfl
          · rw [after, passed.params, List.filterMap_append]
            rfl

variable {literals literals' : LiteralPlacement} {draws draws' : Draws}

/-- The names under which literals are bound are those of the parameters. -/
theorem Passed.names (passed : setting.Passed entries before) :
    before.names = (entries.map Prod.snd).filterMap ShownLiteral.name? := by
  rw [Bindings.names, passed.params, List.map_filterMap, List.filterMap_map]
  refine List.filterMap_congr fun entry _ => ?_
  simp [Option.map_map, Function.comp_def]

theorem Passed.mem_names (passed : setting.Passed entries before) {literal : Node} {name : String}
    (among : (literal, .bound name) ∈ entries) : name ∈ before.names := by
  rw [passed.names]
  exact List.mem_filterMap.2 ⟨_, List.mem_map_of_mem among, rfl⟩

theorem Passed.forall₂_params (passed : setting.Passed entries before)
    {rel : Node → String × String → Prop}
    (each : ∀ literal name, (literal, .bound name) ∈ entries →
      rel literal (name, setting.boundValue literal)) :
    List.Forall₂ rel
      ((entries.map Prod.fst).filter fun literal => setting.placement literal == .bound)
      before.params := by
  rw [passed.params]
  have shows := passed.shows
  clear passed
  induction entries with
  | nil => exact .nil
  | cons entry entries ih =>
      obtain ⟨literal, shown⟩ := entry
      obtain ⟨here, others⟩ := List.forall_mem_cons.1 shows
      have rest := ih (fun literal name among => each literal name (List.mem_cons_of_mem _ among))
        others
      cases shown with
      | inline text =>
          have placed : setting.placement literal = .inline := here.1
          simpa [placed, ShownLiteral.name?] using rest
      | bound name =>
          have placed : setting.placement literal = .bound := here
          simp only [List.map_cons, List.filter_cons, placed, BEq.rfl, if_true,
            List.filterMap_cons, ShownLiteral.name?, Option.map_some]
          exact .cons (each literal name (List.mem_cons_self ..)) rest

theorem Passed.literal_unique (passed : setting.Passed entries before)
    {one two : Node} {name : String} (first : (one, .bound name) ∈ entries)
    (second : (two, .bound name) ∈ entries) : one = two := by
  have names : ((entries.filterMap fun entry =>
      entry.2.name?.map fun name => (name, entry.1)).map Prod.fst).Nodup := by
    have nodup := passed.names ▸ passed.distinct.nodup
    rw [List.filterMap_map] at nodup
    rw [List.map_filterMap]
    simpa [Option.map_map, Function.comp_def] using nodup
  have owner {literal : Node} (among : (literal, .bound name) ∈ entries) :
      (name, literal) ∈ entries.filterMap fun entry =>
        entry.2.name?.map fun name => (name, entry.1) :=
    List.mem_filterMap.2 ⟨_, among, rfl⟩
  exact congrArg Prod.snd (List.inj_on_of_nodup_map names (owner first) (owner second) rfl)

end Setting

end Cql
