import Cql.Proofs.Compile.FreshName
import Cql.Proofs.Sql.PairedFragment

/-!
# Placeholders in SQL

A name of a parameter may be found in SQL text in two ways: as a placeholder, outside quotes and
after the mark of the dialect, or between quotes, where it is part of a column's name. This module
tells the two apart, and shows that a fragment whose fixed texts are inert has no placeholders but
those that are pieces of it.
-/

namespace Cql

/-- The form of the name of a parameter: `cql_` and four lowercase letters. -/
def ParameterName.IsName (name : String) : Prop :=
  ∃ letters : List Char, letters.length = 4 ∧ (∀ c ∈ letters, c.isLower = true) ∧
    name.toList = 'c' :: 'q' :: 'l' :: '_' :: letters

theorem ParameterName.isName_ofIndex (index : Nat) : IsName (ofIndex index) := by
  have table : ∀ k : Fin 26, (Char.ofNat (97 + k.val)).isLower = true := by decide
  have letters (i : Nat) : (letter i).isLower = true :=
    table ⟨i % 26, Nat.mod_lt i (by decide)⟩
  refine ⟨_, rfl, ?_, by rw [ofIndex, String.toList_ofList]⟩
  simp only [List.forall_mem_cons]
  exact ⟨letters _, letters _, letters _, letters _, List.forall_mem_nil _⟩

theorem ParameterName.Distinct.isName {names : List String} (distinct : Distinct names) :
    ∀ name ∈ names, IsName name := by
  intro name among
  obtain ⟨index, _, rfl⟩ := distinct.named name among
  exact isName_ofIndex index

namespace ParameterName.IsName

variable {name : String}

theorem not_mem (named : IsName name) {c : Char} (special : c ∈ ['"', '\'', ':', '@']) :
    c ∉ name.toList := by
  obtain ⟨letters, _, lower, shape⟩ := named
  have apart : c.isLower = false ∧ c ∉ ['c', 'q', 'l', '_'] := by
    simp only [List.mem_cons, List.not_mem_nil, or_false] at special
    rcases special with rfl | rfl | rfl | rfl <;> exact ⟨rfl, by decide⟩
  obtain ⟨upper, other⟩ := apart
  rw [shape]
  intro among
  simp only [List.mem_cons] at among other
  rcases among with rfl | rfl | rfl | rfl | among
  · simp at other
  · simp at other
  · simp at other
  · simp at other
  · rw [lower c among] at upper
    cases upper

theorem length (named : IsName name) : name.toList.length = 8 := by
  obtain ⟨letters, four, _, shape⟩ := named
  rw [shape]
  simp [four]

/-- Neither a name nor the mark in front of it has quotation marks in it. -/
theorem plain (named : IsName name) (dialect : Sql.Dialect) :
    ∀ c ∈ dialect.sigil :: name.toList, Sql.Lexeme.isQuote c = false := by
  refine List.forall_mem_cons.2 ⟨by cases dialect <;> decide, fun c inside => ?_⟩
  have double : c ≠ '"' := by
    rintro rfl
    exact named.not_mem (by decide) inside
  have single : c ≠ '\'' := by
    rintro rfl
    exact named.not_mem (by decide) inside
  simp [Sql.Lexeme.isQuote, double, single]

end ParameterName.IsName

namespace Sql

open ParameterName

/-! ## Words in lists -/

/-- A word without a character is found before or after the character. -/
theorem infix_of_infix_append_cons {word xs ys : List Char} {mark : Char} (free : mark ∉ word)
    (within : word <:+: xs ++ mark :: ys) : word <:+: xs ∨ word <:+: ys := by
  have front {xs : List Char} (start : word <+: xs ++ mark :: ys) : word <+: xs := by
    clear within
    induction word generalizing xs with
    | nil => exact List.nil_prefix
    | cons w word ih =>
        cases xs with
        | nil =>
            rw [List.nil_append, List.cons_prefix_cons] at start
            exact absurd (start.1 ▸ List.mem_cons_self ..) free
        | cons x xs =>
            rw [List.cons_append, List.cons_prefix_cons] at start
            exact List.cons_prefix_cons.2
              ⟨start.1, ih (fun among => free (List.mem_cons_of_mem _ among)) start.2⟩
  induction xs with
  | nil =>
      rcases List.infix_cons_iff.1 within with start | later
      · exact .inl (front start).isInfix
      · exact .inr later
  | cons x xs ih =>
      rcases List.infix_cons_iff.1 within with start | later
      · exact .inl (front start).isInfix
      · rcases ih later with inside | after
        · exact .inl (inside.trans (List.suffix_cons x xs).isInfix)
        · exact .inr after

namespace Lexeme

/-- A word without quotation marks in a text with doubled marks is in the text itself. -/
theorem infix_of_infix_doubled {quote : Char} {word cs : List Char} (free : quote ∉ word)
    (within : word <:+: doubled quote cs) : word <:+: cs := by
  have front {word cs : List Char} (free : quote ∉ word) (start : word <+: doubled quote cs) :
      word <+: cs := by
    induction cs generalizing word with
    | nil => exact start
    | cons c cs ih =>
        cases word with
        | nil => exact List.nil_prefix
        | cons w word =>
            have fresh : quote ≠ w ∧ quote ∉ word := by simpa using free
            rw [doubled] at start
            split at start
            · exact absurd (List.cons_prefix_cons.1 start).1.symm fresh.1
            · obtain ⟨same, rest⟩ := List.cons_prefix_cons.1 start
              exact List.cons_prefix_cons.2 ⟨same, ih fresh.2 rest⟩
  induction cs with
  | nil => exact within
  | cons c cs ih =>
      have rest : word <:+: doubled quote cs → word <:+: c :: cs := fun inner =>
        (ih inner).trans (List.suffix_cons c cs).isInfix
      rw [doubled] at within
      split at within
      · rcases infix_of_infix_append_cons free (show word <:+: [] ++ quote :: _ from within)
          with empty | later
        · rw [List.infix_nil.1 empty]
          exact List.nil_infix
        · rcases infix_of_infix_append_cons free (show word <:+: [] ++ quote :: _ from later)
            with empty | later
          · rw [List.infix_nil.1 empty]
            exact List.nil_infix
          · exact rest later
      · rcases List.infix_cons_iff.1 within with start | later
        · obtain ⟨_, _⟩ | ⟨w, _⟩ := word
          · exact List.nil_infix
          · obtain ⟨same, inner⟩ := List.cons_prefix_cons.1 start
            exact (List.cons_prefix_cons.2
              ⟨same, front (fun among => free (List.mem_cons_of_mem _ among)) inner⟩).isInfix
        · exact rest later

/-- A text stays within a text when quotation marks are doubled, if it has none itself. -/
theorem infix_doubled_of_infix {quote : Char} {word cs : List Char} (free : quote ∉ word)
    (within : word <:+: cs) : word <:+: doubled quote cs := by
  have split (xs ys : List Char) :
      doubled quote (xs ++ ys) = doubled quote xs ++ doubled quote ys := by
    induction xs with
    | nil => rfl
    | cons x xs ih =>
        rw [List.cons_append, doubled, doubled, ih]
        split <;> simp
  have plain : doubled quote word = word := by
    clear within
    induction word with
    | nil => rfl
    | cons w word ih =>
        have fresh : quote ≠ w ∧ quote ∉ word := by simpa using free
        rw [doubled, if_neg (by simpa using fresh.1.symm), ih fresh.2]
  obtain ⟨xs, ys, rfl⟩ := within
  rw [split, split, plain]
  exact ⟨_, _, rfl⟩

theorem writeAll_map_mark (cs : List Char) : writeAll (cs.map mark) = cs := by
  rw [writeAll, List.flatMap_map]
  exact List.flatMap_singleton' ..

/-- A word without quotation marks with which a text begins is a row of characters. -/
theorem marks_prefix_of_writeAll {word : List Char} {lexemes : List Lexeme}
    (plain : ∀ c ∈ word, isQuote c = false) (start : word <+: writeAll lexemes) :
    word.map mark <+: lexemes := by
  induction word generalizing lexemes with
  | nil => exact List.nil_prefix
  | cons w word ih =>
      obtain ⟨first, others⟩ := List.forall_mem_cons.1 plain
      cases lexemes with
      | nil => cases List.prefix_nil.1 start
      | cons lexeme lexemes =>
          cases lexeme with
          | mark c =>
              obtain ⟨same, rest⟩ := List.cons_prefix_cons.1 start
              rw [same, List.map_cons]
              exact List.cons_prefix_cons.2 ⟨rfl, ih others rest⟩
          | identifier name =>
              rw [(List.cons_prefix_cons.1 start).1] at first
              cases first
          | string content =>
              rw [(List.cons_prefix_cons.1 start).1] at first
              cases first

/-- A word without quotation marks stands outside quotes or inside one quotation. -/
theorem infix_writeAll {word : List Char} {lexemes : List Lexeme}
    (plain : ∀ c ∈ word, isQuote c = false) (within : word <:+: writeAll lexemes) :
    word.map mark <:+: lexemes ∨ (∃ name, identifier name ∈ lexemes ∧ word <:+: name.toList) ∨
      ∃ content, string content ∈ lexemes ∧ word <:+: content.toList := by
  have free {quote : Char} (quotes : isQuote quote = true) : quote ∉ word := by
    intro among
    rw [plain quote among] at quotes
    cases quotes
  induction lexemes with
  | nil =>
      rw [List.infix_nil.1 within]
      exact .inl List.nil_infix
  | cons lexeme lexemes ih =>
      have rest (later : word <:+: writeAll lexemes) : word.map mark <:+: lexeme :: lexemes ∨
          (∃ name, identifier name ∈ lexeme :: lexemes ∧ word <:+: name.toList) ∨
            ∃ content, string content ∈ lexeme :: lexemes ∧ word <:+: content.toList := by
        rcases ih later with outside | ⟨name, among, inside⟩ | ⟨content, among, inside⟩
        · exact Or.inl (outside.trans (List.suffix_cons lexeme lexemes).isInfix)
        · exact Or.inr (Or.inl ⟨name, List.mem_cons_of_mem lexeme among, inside⟩)
        · exact Or.inr (Or.inr ⟨content, List.mem_cons_of_mem lexeme among, inside⟩)
      have quoted {quote : Char} (quotes : isQuote quote = true) {content : List Char}
          (found : word <:+: (quote :: doubled quote content ++ [quote]) ++ writeAll lexemes) :
          word <:+: content ∨ word <:+: writeAll lexemes := by
        rw [List.append_assoc, List.cons_append] at found
        rcases infix_of_infix_append_cons (free quotes)
          (show word <:+: [] ++ quote :: _ from found) with empty | later
        · rw [List.infix_nil.1 empty]
          exact .inl List.nil_infix
        · rcases infix_of_infix_append_cons (free quotes) later with inside | after
          · exact .inl (infix_of_infix_doubled (free quotes) inside)
          · exact .inr after
      cases lexeme with
      | mark c =>
          rcases List.infix_cons_iff.1 within with start | later
          · exact .inl (marks_prefix_of_writeAll plain
              (show word <+: writeAll (mark c :: lexemes) from start)).isInfix
          · exact rest later
      | identifier name =>
          rcases quoted (show isQuote '"' = true from rfl) within with inside | later
          · exact .inr (.inl ⟨name, List.mem_cons_self .., inside⟩)
          · exact rest later
      | string content =>
          rcases quoted (show isQuote '\'' = true from rfl) within with inside | later
          · exact .inr (.inr ⟨content, List.mem_cons_self .., inside⟩)
          · exact rest later

/-! ## Open quotations -/

theorem openQuote_doubled {quote : Char} (quotes : isQuote quote = true) (cs : List Char) :
    openQuote (some quote) (doubled quote cs) = some quote := by
  induction cs with
  | nil => rfl
  | cons c cs ih =>
      rw [doubled]
      split
      · rw [openQuote, List.foldl_cons, List.foldl_cons, turnQuote, if_pos rfl, turnQuote,
          if_pos quotes]
        exact ih
      · next other =>
          rw [openQuote, List.foldl_cons, turnQuote, if_neg (by simpa using other)]
          exact ih

theorem openQuote_write {lexeme : Lexeme} (plain : lexeme.Plain) :
    openQuote none lexeme.write = none := by
  have closed {quote : Char} (quotes : isQuote quote = true) (content : List Char) :
      openQuote none (quote :: doubled quote content ++ [quote]) = none := by
    have opened : openQuote none (quote :: doubled quote content) = some quote := by
      rw [openQuote, List.foldl_cons, turnQuote, if_pos quotes]
      exact openQuote_doubled quotes content
    rw [openQuote_append, opened, openQuote, List.foldl_cons, turnQuote, if_pos rfl]
    rfl
  cases lexeme with
  | mark c =>
      have free : isQuote c = false := plain
      simp [write, openQuote, turnQuote, free]
  | identifier name => exact closed rfl name.toList
  | string content => exact closed rfl content.toList

theorem openQuote_writeAll {lexemes : List Lexeme} (plain : ∀ lexeme ∈ lexemes, lexeme.Plain) :
    openQuote none (writeAll lexemes) = none := by
  induction lexemes with
  | nil => rfl
  | cons lexeme lexemes ih =>
      obtain ⟨first, others⟩ := List.forall_mem_cons.1 plain
      rw [writeAll_cons, openQuote_append, openQuote_write first]
      exact ih others

/-- Before a character inside quotes that is no quotation mark, the quotation is open. -/
theorem openQuote_of_doubled {quote c : Char} (quotes : isQuote quote = true) (other : c ≠ quote)
    {cs before after : List Char} (whole : doubled quote cs ++ [quote] = before ++ c :: after) :
    openQuote (some quote) before = some quote := by
  induction cs generalizing before with
  | nil =>
      cases before with
      | nil => exact absurd (List.cons.inj whole).1.symm other
      | cons b before => simp [doubled] at whole
  | cons d cs ih =>
      rw [doubled] at whole
      split at whole
      · rcases before with _ | ⟨_, _ | ⟨_, before⟩⟩
        · exact absurd (List.cons.inj whole).1.symm other
        · exact absurd (List.cons.inj (List.cons.inj whole).2).1.symm other
        · simp only [List.cons_append, List.cons.injEq] at whole
          obtain ⟨rfl, rfl, rest⟩ := whole
          rw [openQuote, List.foldl_cons, List.foldl_cons, turnQuote, if_pos rfl, turnQuote,
            if_pos quotes]
          exact ih rest
      · next differs =>
          cases before with
          | nil => rfl
          | cons b before =>
              obtain ⟨rfl, rest⟩ := List.cons.inj whole
              rw [openQuote, List.foldl_cons, turnQuote, if_neg (by simpa using differs)]
              exact ih rest

/-- Inside a quotation, before a character that is no quotation mark, something is open. -/
theorem openQuote_of_quoted {quote c : Char} (quotes : isQuote quote = true) (other : c ≠ quote)
    {content before after : List Char}
    (whole : quote :: doubled quote content ++ [quote] = before ++ c :: after) :
    openQuote none before ≠ none := by
  cases before with
  | nil => exact absurd (List.cons.inj whole).1.symm other
  | cons b before =>
      obtain ⟨rfl, inner⟩ := List.cons.inj whole
      rw [openQuote, List.foldl_cons, turnQuote, if_pos quotes]
      change openQuote (some quote) before ≠ none
      rw [openQuote_of_doubled quotes other inner]
      exact Option.some_ne_none quote

/-- A word without quotation marks that stands outside quotes is a row of characters. -/
theorem marks_infix_of_writeAll {word : List Char} {lexemes : List Lexeme}
    (plain : ∀ c ∈ word, isQuote c = false) (lexical : ∀ lexeme ∈ lexemes, lexeme.Plain)
    {before after : List Char} (whole : writeAll lexemes = before ++ (word ++ after))
    (outside : openQuote none before = none) : word.map mark <:+: lexemes := by
  induction lexemes generalizing before with
  | nil =>
      have empty : word = [] := by
        have nothing : before ++ (word ++ after) = [] := whole.symm
        simp only [List.append_eq_nil_iff] at nothing
        exact nothing.2.1
      rw [empty]
      exact List.nil_infix
  | cons lexeme lexemes ih =>
      obtain ⟨first, others⟩ := List.forall_mem_cons.1 lexical
      rw [writeAll_cons] at whole
      rcases List.append_eq_append_iff.1 whole with ⟨gap, rfl, rest⟩ | ⟨gap, text, rest⟩
      · rw [openQuote_append, openQuote_write first] at outside
        exact (ih others rest outside).trans (List.suffix_cons lexeme lexemes).isInfix
      · cases before with
        | nil =>
            refine (marks_prefix_of_writeAll plain ?_).isInfix
            rw [writeAll_cons, whole]
            exact List.prefix_append word after
        | cons b before =>
            cases gap with
            | nil =>
                have later : writeAll lexemes = [] ++ (word ++ after) := rest.symm
                exact (ih others later rfl).trans (List.suffix_cons lexeme lexemes).isInfix
            | cons c gap =>
                cases word with
                | nil => exact List.nil_infix
                | cons w word =>
                    obtain ⟨rfl, _⟩ := List.cons.inj rest
                    have unquoted : isQuote w = false := plain w (List.mem_cons_self ..)
                    have other {quote : Char} (quotes : isQuote quote = true) : w ≠ quote := by
                      rintro rfl
                      rw [unquoted] at quotes
                      cases quotes
                    cases lexeme with
                    | mark c => simp [write] at text
                    | identifier name =>
                        have quotes : isQuote '"' = true := rfl
                        exact absurd outside (openQuote_of_quoted quotes (other quotes) text)
                    | string content =>
                        have quotes : isQuote '\'' = true := rfl
                        exact absurd outside (openQuote_of_quoted quotes (other quotes) text)

/-- What follows the mark of a placeholder in an inert text is no name of a parameter. -/
theorem next_of_isUnmarked {sigil : Char} {before after : List Char}
    (unmarked : isUnmarked sigil (before ++ sigil :: after) = true) :
    ∃ next rest, after = next :: rest ∧ next ≠ 'c' := by
  induction before with
  | nil =>
      cases after with
      | nil => simp [isUnmarked] at unmarked
      | cons next rest =>
          have differs : next ≠ 'c' := by
            rintro rfl
            simp [isUnmarked] at unmarked
          exact ⟨next, rest, rfl, differs⟩
  | cons c before ih =>
      have rest : isUnmarked sigil (before ++ sigil :: after) = true := by
        cases before with
        | nil =>
            rw [List.cons_append, List.nil_append, isUnmarked, Bool.and_eq_true] at unmarked
            exact unmarked.2
        | cons d before =>
            rw [List.cons_append, List.cons_append, isUnmarked, Bool.and_eq_true] at unmarked
            exact unmarked.2
      exact ih rest

/-! ## Placeholders -/

/-- The name of a parameter stands in SQL as a placeholder: outside quotes, after the mark. -/
def HasPlaceholder (sigil : Char) (lexemes : List Lexeme) (name : String) : Prop :=
  IsName name ∧ (sigil :: name.toList).map mark <:+: lexemes

end Lexeme

namespace Piece

open Lexeme

/-- Where a piece of SQL comes from: it is an inert text, a column, or the placeholder of one of the
given names. -/
def Settled (sigil : Char) (names : List String) : Piece → Prop
  | .text sql => isInert sql = true
  | .column _ => True
  | .placeholder front name => front = sigil ∧ name ∈ names

theorem openQuote_render {dialect : Dialect} {names : List String} {piece : Piece}
    (named : ∀ name ∈ names, IsName name) (settled : piece.Settled dialect.sigil names) :
    openQuote none piece.render.toList = none := by
  cases piece with
  | text sql =>
      have inert : isInert sql = true := settled
      rw [isInert, Bool.and_eq_true] at inert
      exact beq_iff_eq.1 inert.1
  | column name =>
      rw [Piece.render, ← write_identifier]
      exact openQuote_write trivial
  | placeholder front name =>
      obtain ⟨rfl, among⟩ := settled
      have plain := (named name among).plain dialect
      have text : (Piece.placeholder dialect.sigil name).render.toList
          = writeAll ((dialect.sigil :: name.toList).map Lexeme.mark) := by
        rw [writeAll_map_mark]
        simp [Piece.render]
      rw [text]
      refine openQuote_writeAll fun lexeme inside => ?_
      obtain ⟨c, member, rfl⟩ := List.mem_map.1 inside
      exact plain c member

end Piece

namespace Fragment

open Lexeme

/-- A placeholder of a fragment stands in its text. -/
theorem infix_render {sigil : Char} {name : String} {sql : Fragment}
    (among : .placeholder sigil name ∈ sql) : sigil :: name.toList <:+: sql.render.toList := by
  obtain ⟨before, after, rfl⟩ := List.append_of_mem among
  refine ⟨(render before).toList, (render after).toList, ?_⟩
  simp [Piece.render]

/-- Every quotation in a fragment is closed at its end. -/
theorem openQuote_render {dialect : Dialect} {names : List String} {sql : Fragment}
    (named : ∀ name ∈ names, IsName name)
    (settled : ∀ piece ∈ sql, piece.Settled dialect.sigil names) :
    openQuote none sql.render.toList = none := by
  induction sql with
  | nil => rfl
  | cons piece sql ih =>
      obtain ⟨first, others⟩ := List.forall_mem_cons.1 settled
      rw [Fragment.render_cons, String.toList_append, openQuote_append,
        Piece.openQuote_render named first]
      exact ih others

/-- Outside quotes, the mark and the name of a parameter are a piece of the fragment, and what
stands before and after them are the pieces before and after it. -/
theorem split_of_render {dialect : Dialect} {names : List String} {sql : Fragment}
    (named : ∀ name ∈ names, IsName name)
    (settled : ∀ piece ∈ sql, piece.Settled dialect.sigil names) {name : String}
    (form : IsName name) {before after : List Char}
    (whole : sql.render.toList = before ++ (dialect.sigil :: name.toList) ++ after)
    (outside : openQuote none before = none) :
    ∃ front back, sql = front ++ .placeholder dialect.sigil name :: back ∧
      (render front).toList = before ∧ (render back).toList = after := by
  induction sql generalizing before with
  | nil => simp at whole
  | cons piece sql ih =>
      obtain ⟨first, others⟩ := List.forall_mem_cons.1 settled
      rw [Fragment.render_cons, String.toList_append, List.append_assoc] at whole
      rcases List.append_eq_append_iff.1 whole with ⟨gap, rfl, rest⟩ | ⟨gap, text, rest⟩
      · rw [openQuote_append, Piece.openQuote_render named first] at outside
        obtain ⟨front, back, rfl, rfl, rfl⟩ :=
          ih others (by rw [rest, List.append_assoc]) outside
        exact ⟨piece :: front, back, rfl, by simp, rfl⟩
      · cases gap with
        | nil =>
            have later : (render sql).toList = [] ++ (dialect.sigil :: name.toList) ++ after := by
              simpa using rest.symm
            obtain ⟨front, back, rfl, empty, rfl⟩ := ih others later rfl
            refine ⟨piece :: front, back, rfl, ?_, rfl⟩
            rw [Fragment.render_cons, String.toList_append, empty, text, List.append_nil,
              List.append_nil]
        | cons c gap =>
            rw [List.cons_append, List.cons_append] at rest
            obtain ⟨rfl, tail⟩ := List.cons.inj rest
            obtain ⟨letters, four, lower, shape⟩ := form
            cases piece with
            | text sql =>
                have inert : isInert sql = true := first
                rw [isInert, Bool.and_eq_true] at inert
                have unmarked := List.all_eq_true.1 inert.2 dialect (by cases dialect <;> decide)
                rw [show sql.toList = _ from text] at unmarked
                obtain ⟨next, more, rfl, differs⟩ := next_of_isUnmarked unmarked
                rw [shape] at tail
                exact absurd (List.cons.inj tail).1.symm differs
            | column column =>
                have quoted : '"' :: doubled '"' column.toList ++ ['"']
                    = before ++ dialect.sigil :: gap := by
                  rw [← text, Piece.render, ← write_identifier]
                  rfl
                have other : dialect.sigil ≠ '"' := by cases dialect <;> decide
                exact absurd outside (openQuote_of_quoted rfl other quoted)
            | placeholder front found =>
                obtain ⟨rfl, among⟩ := first
                have known := named found among
                have text : dialect.sigil :: found.toList = before ++ dialect.sigil :: gap := by
                  rw [← text]
                  simp [Piece.render]
                cases before with
                | nil =>
                    obtain ⟨_, same⟩ := List.cons.inj text
                    have form : IsName name := ⟨letters, four, lower, shape⟩
                    rw [← same] at tail
                    obtain ⟨equal, rfl⟩ := List.append_inj tail (by rw [form.length, known.length])
                    rw [String.toList_inj.1 equal]
                    exact ⟨[], sql, rfl, rfl, rfl⟩
                | cons b before =>
                    obtain ⟨_, inner⟩ := List.cons.inj text
                    refine absurd ?_ (known.not_mem
                      (show dialect.sigil ∈ ['"', '\'', ':', '@'] by cases dialect <;> decide))
                    rw [inner]
                    exact List.mem_append_right _ (List.mem_cons_self ..)

end Fragment

end Sql

end Cql
