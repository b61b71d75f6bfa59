import Cql.Proofs.Compile.PairedTranslation
import Cql.Proofs.Compile.SqlSafety
import Cql.Proofs.Sql.Placeholder

/-!
# Which parameters a filter returns

Conditions on time may be settled before they reach the database, and the values in them are then
bound without being used. They are left out of the result when the mark and the name are nowhere in
the SQL. The search for them does not tell placeholders from the names of columns, so a parameter
that is not used is returned all the same when a column happens to be called after it.
-/

namespace Cql

open Cql.Sql Cql.Grammar

theorem occursIn_iff {text cs : List Char} : occursIn text cs = true ↔ text <:+: cs := by
  induction cs with
  | nil => rw [occursIn, List.isEmpty_iff, List.infix_nil]
  | cons c cs ih =>
      rw [occursIn, Bool.or_eq_true, List.isPrefixOf_iff_prefix, ih, List.infix_cons_iff]

namespace Compilation

variable {sigil : Char} {sql : String} {params : Parameters}

/-- A parameter is returned when its mark and name are somewhere in the SQL. -/
theorem mem_usedParams {param : String × String} :
    param ∈ usedParams sigil sql params ↔
      param ∈ params ∧ sigil :: param.1.toList <:+: sql.toList := by
  rw [usedParams, List.mem_filter, occursIn_iff]

theorem mem_usedParams_names {name : String} :
    name ∈ (usedParams sigil sql params).map Prod.fst ↔
      name ∈ params.map Prod.fst ∧ sigil :: name.toList <:+: sql.toList := by
  constructor
  · intro among
    obtain ⟨param, member, rfl⟩ := List.mem_map.1 among
    obtain ⟨bound, within⟩ := mem_usedParams.1 member
    exact ⟨List.mem_map_of_mem bound, within⟩
  · rintro ⟨bound, within⟩
    obtain ⟨param, member, rfl⟩ := List.mem_map.1 bound
    exact List.mem_map_of_mem (mem_usedParams.2 ⟨member, within⟩)

end Compilation

namespace Setting

variable {setting : Setting}

/-- The SQL of a filter consists of inert texts, columns, and placeholders of parameters that were
bound, under names that are different from each other. -/
theorem settled_of_translate {tree : Node} (formed : tree.Formed) {sql : Fragment}
    {bindings : Bindings} (done : setting.translate tree {} = .ok ([.closed sql], bindings)) :
    (∀ piece ∈ sql, piece.Settled setting.dialect.sigil bindings.names) ∧
      ParameterName.Distinct bindings.names := by
  have inStep : InStep setting.dialect.sigil {} {} (setting.translate tree {})
      (setting.translate tree {}) := translate_inStep formed .start
  rw [done] at inStep
  cases inStep with
  | ok paired twin longer longer' =>
      refine ⟨fun piece among => ?_, twin.distinct⟩
      cases List.forall₂_cons.1 paired |>.1 with
      | expr same chained =>
          have slot := List.forall₂_same.1 same piece among
          cases slot with
          | text inert => exact inert
          | column name => trivial
          | placeholder here there => exact ⟨rfl, List.mem_of_getElem? here⟩

/-- A mark and a name are somewhere in the SQL of a filter exactly when the name is a placeholder or
part of the name of a column. -/
theorem infix_sql_iff {allowed : String → Prop} {lexemes : List Lexeme}
    (sound : Lexeme.Sound allowed lexemes) {sql : String}
    (written : Lexeme.writeAll lexemes = sql.toList) {name : String}
    (named : ParameterName.IsName name) :
    setting.dialect.sigil :: name.toList <:+: sql.toList ↔
      Lexeme.HasPlaceholder setting.dialect.sigil lexemes name ∨
        ∃ column, .identifier column ∈ lexemes ∧
          setting.dialect.sigil :: name.toList <:+: column.toList := by
  have plain := named.plain setting.dialect
  rw [← written]
  constructor
  · intro within
    rcases Lexeme.infix_writeAll plain within with
      outside | inside | ⟨content, among, inside⟩
    · exact .inl ⟨named, outside⟩
    · exact .inr inside
    · have short : ∀ content ∈ Lexeme.fixedStrings, content.toList.length ≤ 3 := by decide
      have fits := inside.length_le
      have bound := short content (sound.each _ among)
      rw [List.length_cons, named.length] at fits
      omega
  · rintro (⟨_, before, after, rfl⟩ | ⟨column, among, inside⟩)
    · refine ⟨Lexeme.writeAll before, Lexeme.writeAll after, ?_⟩
      rw [Lexeme.writeAll_append, Lexeme.writeAll_append, Lexeme.writeAll_map_mark]
    · have free : '"' ∉ setting.dialect.sigil :: name.toList := by
        intro quote
        have := plain _ quote
        cases this
      obtain ⟨before, after, rfl⟩ := List.append_of_mem among
      have quoted : setting.dialect.sigil :: name.toList <:+: (Lexeme.identifier column).write := by
        refine (Lexeme.infix_doubled_of_infix free inside).trans ?_
        exact ⟨['"'], ['"'], rfl⟩
      rw [Lexeme.writeAll_append, Lexeme.writeAll_cons, ← List.append_assoc]
      exact quoted.trans ⟨_, _, rfl⟩

/-- A placeholder in the SQL of a filter is one of its pieces, and what stands around it are the
pieces around that piece. -/
theorem split_of_placeholder {sql : Fragment} {names : List String}
    (settled : ∀ piece ∈ sql, piece.Settled setting.dialect.sigil names)
    (named : ∀ name ∈ names, ParameterName.IsName name) {allowed : String → Prop}
    {before after : List Lexeme} {name : String} (form : ParameterName.IsName name)
    (sound : Lexeme.Sound allowed
      (before ++ (setting.dialect.sigil :: name.toList).map Lexeme.mark ++ after))
    (written : Lexeme.writeAll
        (before ++ (setting.dialect.sigil :: name.toList).map Lexeme.mark ++ after)
      = sql.render.toList) :
    ∃ front back, sql = front ++ .placeholder setting.dialect.sigil name :: back ∧
      (Fragment.render front).toList = Lexeme.writeAll before ∧
      (Fragment.render back).toList = Lexeme.writeAll after := by
  have outside : Lexeme.openQuote none (Lexeme.writeAll before) = none := by
    exact Lexeme.openQuote_writeAll fun lexeme among =>
      sound.plain lexeme (List.mem_append_left _ (List.mem_append_left _ among))
  have whole : sql.render.toList = Lexeme.writeAll before
      ++ (setting.dialect.sigil :: name.toList) ++ Lexeme.writeAll after := by
    rw [← written, Lexeme.writeAll_append, Lexeme.writeAll_append, Lexeme.writeAll_map_mark]
  exact Fragment.split_of_render named settled form whole outside

theorem hasPlaceholder_iff {sql : Fragment} {names : List String}
    (settled : ∀ piece ∈ sql, piece.Settled setting.dialect.sigil names)
    (named : ∀ name ∈ names, ParameterName.IsName name) {allowed : String → Prop}
    {lexemes : List Lexeme} (sound : Lexeme.Sound allowed lexemes)
    (written : Lexeme.writeAll lexemes = sql.render.toList) {name : String} :
    Lexeme.HasPlaceholder setting.dialect.sigil lexemes name ↔
      .placeholder setting.dialect.sigil name ∈ sql := by
  constructor
  · rintro ⟨form, before, after, rfl⟩
    obtain ⟨front, back, rfl, _, _⟩ := split_of_placeholder settled named form sound written
    exact List.mem_append_right _ (List.mem_cons_self ..)
  · intro among
    have form : ParameterName.IsName name := named name (settled _ among).2
    obtain ⟨before, after, rfl⟩ := List.append_of_mem among
    have outside := Fragment.openQuote_render named fun piece inside =>
      settled piece (List.mem_append_left _ inside)
    have whole : Lexeme.writeAll lexemes = (Fragment.render before).toList
        ++ ((setting.dialect.sigil :: name.toList) ++ (Fragment.render after).toList) := by
      rw [written]
      simp [Piece.render]
    exact ⟨form, Lexeme.marks_infix_of_writeAll (form.plain setting.dialect) sound.plain whole
      outside⟩

theorem bound_of_placeholder {sql : Fragment} {names : List String}
    (settled : ∀ piece ∈ sql, piece.Settled setting.dialect.sigil names)
    (named : ∀ name ∈ names, ParameterName.IsName name) {allowed : String → Prop}
    {lexemes : List Lexeme} (sound : Lexeme.Sound allowed lexemes)
    (written : Lexeme.writeAll lexemes = sql.render.toList) {name : String}
    (found : Lexeme.HasPlaceholder setting.dialect.sigil lexemes name) : name ∈ names :=
  (settled _ ((hasPlaceholder_iff settled named sound written).1 found)).2

/-- The parameters that a filter returns are those whose placeholders stand in its SQL and, besides,
those that it bound and whose mark and name are part of the name of a column. -/
theorem mem_compile_params_iff (setting : Setting) {filter : String} {result : SqlFilter}
    (compiled : setting.compile filter = .ok result) :
    ∃ lexemes, Lexeme.scan result.sql = some lexemes ∧
      ∀ name, name ∈ result.params.map Prod.fst ↔
        Lexeme.HasPlaceholder setting.dialect.sigil lexemes name ∨
          (∃ tree, Filter.parse filter = .ok tree ∧
            name ∈ (setting.walk tree {}).params.map Prod.fst) ∧
          ∃ column, Lexeme.identifier column ∈ lexemes ∧
            setting.dialect.sigil :: name.toList <:+: column.toList := by
  cases parsed : Filter.parse filter with
  | error errors =>
      simp only [compile, parsed] at compiled
      split at compiled
      · cases compiled
        refine ⟨[], rfl, fun name => ⟨fun among => absurd among List.not_mem_nil, ?_⟩⟩
        rintro (⟨_, within⟩ | ⟨⟨tree, impossible, _⟩, _⟩)
        · cases List.infix_nil.1 within
        · cases impossible
      · cases compiled
  | ok tree =>
      have formed := Filter.formed_of_parse parsed
      obtain ⟨sql, bindings, done, rfl⟩ := translate_of_compile parsed compiled
      have follows : Compilation.Follows (setting.translate tree {}) {} (setting.walk tree {}) :=
        walk_follows formed {} rfl rfl
      rw [done] at follows
      have params : (setting.walk tree {}).params = bindings.params := by
        rw [show setting.walk tree {} = _ from follows]
        rfl
      obtain ⟨settled, distinct⟩ := settled_of_translate formed done
      have named : ∀ name ∈ bindings.names, ParameterName.IsName name := distinct.isName
      have safe : ∀ operand ∈ [Operand.closed sql], operand.Safe fun _ => True :=
        translate_safe formed (fun _ _ _ _ => trivial) done
      obtain ⟨lexemes, sound, _, written⟩ := (List.forall_mem_singleton.1 safe).1
      refine ⟨lexemes, sound.scan_eq written, fun name => ?_⟩
      rw [Compilation.mem_usedParams_names]
      constructor
      · rintro ⟨bound, within⟩
        rcases (infix_sql_iff sound written (named name bound)).1 within with found | inside
        · exact .inl found
        · exact .inr ⟨⟨tree, rfl, params ▸ bound⟩, inside⟩
      · rintro (found | ⟨⟨_, ⟨⟩, bound⟩, inside⟩)
        · exact ⟨bound_of_placeholder settled named sound written found,
            (infix_sql_iff sound written found.1).2 (.inl found)⟩
        · rw [params] at bound
          exact ⟨bound, (infix_sql_iff sound written (named name bound)).2 (.inr inside)⟩

/-- Of two bound values one is used, and the other is dropped with the condition that it was in. -/
theorem mem_compile_params_iff_settled :
    ∃ result lexemes,
      compile { dialect := .geoPackage }
        "T_AFTER(t, INTERVAL('2020-01-01', '..')) OR a = 1" = .ok result ∧
      Lexeme.scan result.sql = some lexemes ∧ result.params.map Prod.fst = ["cql_fghi"] ∧
      Lexeme.HasPlaceholder ':' lexemes "cql_fghi" := by
  have evaluated : (compile { dialect := .geoPackage }
      "T_AFTER(t, INTERVAL('2020-01-01', '..')) OR a = 1")
        = .ok ⟨"(1 = 0 OR \"a\" = :cql_fghi)", [("cql_fghi", "1")]⟩ := by
    decide +kernel
  obtain ⟨lexemes, scanned, exact⟩ := mem_compile_params_iff _ evaluated
  refine ⟨_, lexemes, evaluated, scanned, rfl, ?_⟩
  rcases (exact "cql_fghi").1 (List.mem_singleton_self _) with found | ⟨_, column, among, inside⟩
  · exact found
  · have read : Lexeme.scan "(1 = 0 OR \"a\" = :cql_fghi)" = some lexemes := scanned
    have only : (Lexeme.scan "(1 = 0 OR \"a\" = :cql_fghi)").any (fun lexemes =>
        lexemes.all fun lexeme => lexeme == .identifier "a" || !lexeme.isQuoted) = true := by
      decide +kernel
    rw [read] at only
    have plain := List.all_eq_true.1 only _ among
    simp [Lexeme.isQuoted] at plain
    rw [plain] at inside
    have short := inside.length_le
    simp at short

/-- A parameter whose value is not used is returned, because a column is called after it. -/
theorem compile_params_kept_by_column :
    ∃ result lexemes,
      compile { dialect := .geoPackage }
        "T_AFTER(t, INTERVAL('2020-01-01', '..')) AND \":cql_bcde\" = a" = .ok result ∧
      Lexeme.scan result.sql = some lexemes ∧ "cql_bcde" ∈ result.params.map Prod.fst ∧
      ¬ Lexeme.HasPlaceholder ':' lexemes "cql_bcde" := by
  have evaluated : compile { dialect := .geoPackage }
      "T_AFTER(t, INTERVAL('2020-01-01', '..')) AND \":cql_bcde\" = a"
        = .ok ⟨"(1 = 0 AND \":cql_bcde\" = \"a\")", [("cql_bcde", "2020-01-01")]⟩ := by
    decide +kernel
  have outside : ((Lexeme.scan "(1 = 0 AND \":cql_bcde\" = \"a\")").any fun lexemes =>
      !lexemes.contains (.mark ':')) = true := by
    decide +kernel
  cases scanned : Lexeme.scan "(1 = 0 AND \":cql_bcde\" = \"a\")" with
  | none => rw [scanned] at outside; cases outside
  | some lexemes =>
      refine ⟨_, lexemes, evaluated, scanned, List.mem_singleton_self _, fun found => ?_⟩
      have among : Lexeme.mark ':' ∈ lexemes := found.2.subset (List.mem_cons_self ..)
      rw [scanned] at outside
      simp [among] at outside

end Setting

end Cql
