import Cql.Proofs.Sql.Placeholder

/-!
# Placeholders in conversions

Where a database is told the type of a bound value, the placeholder stands in a conversion, with
`CAST(` before it and the type after it. A fragment is put together from parts, some of which are
such conversions, and no fixed text ends as the beginning of a conversion does. What stands around a
placeholder in the text therefore shows which of the parts it is in.
-/

namespace Cql.Sql

namespace Lexeme

theorem isBlunt_append {first second : List Char} (one : isBlunt first = true)
    (two : isBlunt second = true) : isBlunt (first ++ second) = true := by
  obtain ⟨letter, bracket⟩ := isBlunt_iff.1 one
  obtain ⟨letter', bracket'⟩ := isBlunt_iff.1 two
  refine isBlunt_iff.2 ⟨?_, ?_⟩
  · rintro ⟨front, whole⟩
    rcases List.append_eq_append_iff.1 whole with ⟨gap, rfl, rest⟩ | ⟨gap, rfl, rest⟩
    · rcases List.singleton_eq_append_iff.1 rest with ⟨rfl, rfl⟩ | ⟨rfl, rfl⟩
      · exact letter' (List.suffix_refl _)
      · exact letter ⟨front, rfl⟩
    · exact letter' ⟨gap, rest.symm⟩
  · rintro ⟨front, whole⟩
    rcases List.append_eq_append_iff.1 whole with ⟨gap, rfl, rest⟩ | ⟨gap, rfl, rest⟩
    · rcases gap with _ | ⟨c, _ | ⟨d, gap⟩⟩
      · exact bracket' ⟨[], rest⟩
      · cases rest
        exact letter ⟨front, rfl⟩
      · obtain ⟨rfl, tail⟩ := List.cons.inj rest
        obtain ⟨rfl, empty⟩ := List.cons.inj tail
        obtain ⟨rfl, rfl⟩ := List.append_eq_nil_iff.1 empty.symm
        exact bracket ⟨front, rfl⟩
    · exact bracket' ⟨gap, rest.symm⟩

theorem concat_suffix_concat {α : Type} {a b : α} {front whole : List α} :
    front ++ [a] <:+ whole ++ [b] ↔ front <:+ whole ∧ a = b := by
  rw [List.suffix_append_inj_of_length_eq (show [a].length = [b].length from rfl),
    List.singleton_inj]

/-- Characters are blunt when the last of them is neither the letter nor the bracket. -/
theorem isBlunt_concat {c : Char} (other : c ∉ ['T', '(']) (cs : List Char) :
    isBlunt (cs ++ [c]) = true := by
  have last (d : Char) (front : List Char) (ends : front ++ [d] <:+ cs ++ [c]) : d = c :=
    (concat_suffix_concat.1 ends).2
  refine isBlunt_iff.2 ⟨fun ends => ?_, fun ends => ?_⟩
  · exact other (last 'T' [] ends ▸ by decide)
  · exact other (last '(' ['T'] ends ▸ by decide)

/-- A word without quotation marks with which a text ends is a row of characters. -/
theorem marks_suffix_of_writeAll {word : List Char} {lexemes : List Lexeme}
    (plain : ∀ c ∈ word, isQuote c = false) (ends : word <:+ writeAll lexemes) :
    word.map mark <:+ lexemes := by
  induction word using List.reverseRecOn generalizing lexemes with
  | nil => exact List.nil_suffix
  | append_singleton word w ih =>
      have unquoted {quote : Char} (quotes : isQuote quote = true) {cs : List Char} :
          ¬ word ++ [w] <:+ cs ++ [quote] := by
        intro ends
        have outside := plain w (List.mem_append_right _ (List.mem_singleton_self w))
        rw [← (concat_suffix_concat.1 ends).2, outside] at quotes
        cases quotes
      rcases List.eq_nil_or_concat lexemes with rfl | ⟨front, lexeme, rfl⟩
      · simp at ends
      · rw [List.concat_eq_append] at ends ⊢
        rw [writeAll_append, writeAll_cons, writeAll_nil, List.append_nil] at ends
        cases lexeme with
        | mark c =>
            obtain ⟨shorter, rfl⟩ := concat_suffix_concat.1 ends
            rw [List.map_append, List.map_singleton, concat_suffix_concat]
            exact ⟨ih (fun c among => plain c (List.mem_append_left _ among)) shorter, rfl⟩
        | identifier name =>
            rw [write, ← List.append_assoc] at ends
            exact absurd ends (unquoted rfl)
        | string content =>
            rw [write, ← List.append_assoc] at ends
            exact absurd ends (unquoted rfl)

end Lexeme

namespace Fragment

def converted (sigil : Char) (name : String) : Option String → Fragment
  | none => [.placeholder sigil name]
  | some type => [.text "CAST(", .placeholder sigil name, .text (" AS " ++ type ++ ")")]

inductive IsPart (sigil : Char) (types : String → Option String → Prop) : Fragment → Prop where
  | text {sql : String} (fixed : isFixed sql = true) : IsPart sigil types [.text sql]
  | column (name : String) : IsPart sigil types [.column name]
  | placeholder {name : String} {type : Option String} (known : types name type) :
      IsPart sigil types (converted sigil name type)

def Made (sigil : Char) (types : String → Option String → Prop) (sql : Fragment) : Prop :=
  ∃ parts : List Fragment, (∀ part ∈ parts, IsPart sigil types part) ∧ sql = parts.flatten

variable {sigil : Char} {types : String → Option String → Prop} {sql other : Fragment}

namespace Made

theorem part (known : IsPart sigil types sql) : Made sigil types sql :=
  ⟨[sql], List.forall_mem_singleton.2 known, by simp⟩

theorem append (one : Made sigil types sql) (two : Made sigil types other) :
    Made sigil types (sql ++ other) := by
  obtain ⟨parts, known, rfl⟩ := one
  obtain ⟨parts', known', rfl⟩ := two
  exact ⟨parts ++ parts', List.forall_mem_append.2 ⟨known, known'⟩, List.flatten_append.symm⟩

theorem mono {types' : String → Option String → Prop}
    (more : ∀ name type, types name type → types' name type) (made : Made sigil types sql) :
    Made sigil types' sql := by
  obtain ⟨parts, known, rfl⟩ := made
  refine ⟨parts, fun part among => ?_, rfl⟩
  cases known part among with
  | text fixed => exact .text fixed
  | column name => exact .column name
  | placeholder known => exact .placeholder (more _ _ known)

/-- Fragments that are made of such parts are put together by compiling. -/
theorem pairing : Pairing fun sql other => sql = other ∧ Made sigil types sql where
  nil := ⟨rfl, [], List.forall_mem_nil _, rfl⟩
  append one two := ⟨by rw [one.1, two.1], one.2.append two.2⟩
  text fixed := ⟨rfl, .part (.text fixed)⟩
  column name := ⟨rfl, .part (.column name)⟩
  empty paired := by rw [paired.1]

end Made

/-- No part ends as the beginning of a conversion does. -/
theorem IsPart.isBlunt (named : ∀ name type, types name type → ParameterName.IsName name)
    (known : IsPart sigil types sql) : Lexeme.isBlunt sql.render.toList = true := by
  cases known with
  | text fixed =>
      rw [render_cons, render_nil, String.append_empty]
      exact (Bool.and_eq_true_iff.1 fixed).2
  | column name =>
      have quoted : (render [.column name]).toList
          = '"' :: Lexeme.doubled '"' name.toList ++ ['"'] := by
        rw [render_cons, render_nil, String.append_empty, Piece.render, ← Lexeme.write_identifier]
        rfl
      rw [quoted]
      exact Lexeme.isBlunt_concat (by decide) _
  | @placeholder name type known =>
      cases type with
      | some type =>
          have text : (render (converted sigil name (some type))).toList
              = ("CAST(".toList ++ sigil :: name.toList ++ (" AS " ++ type).toList) ++ [')'] := by
            simp [converted, Piece.render]
          rw [text]
          exact Lexeme.isBlunt_concat (by decide) _
      | none =>
          obtain ⟨letters, four, lower, shape⟩ := named _ _ known
          have filled : letters ≠ [] := by
            rintro rfl
            cases four
          have text : (render (converted sigil name none)).toList
              = (sigil :: 'c' :: 'q' :: 'l' :: '_' :: letters.dropLast)
                ++ [letters.getLast filled] := by
            simp [converted, Piece.render, shape, List.dropLast_append_getLast filled]
          rw [text]
          refine Lexeme.isBlunt_concat (fun special => ?_) _
          have small := lower _ (List.getLast_mem filled)
          rcases List.mem_pair.1 special with same | same <;> rw [same] at small <;> cases small

/-- A placeholder stands alone in its part, or in a conversion. -/
theorem IsPart.around_placeholder {name : String} {front back : Fragment}
    (known : IsPart sigil types (front ++ .placeholder sigil name :: back)) :
    types name none ∧ front = [] ∨
      ∃ type, types name (some type) ∧ front = [.text "CAST("] ∧
        back = [.text (" AS " ++ type ++ ")")] := by
  generalize whole : front ++ .placeholder sigil name :: back = part at known
  cases known with
  | text fixed => simp [List.append_eq_singleton_iff] at whole
  | column column => simp [List.append_eq_singleton_iff] at whole
  | @placeholder other type known =>
      cases type with
      | none =>
          obtain ⟨rfl, tail⟩ | ⟨_, impossible⟩ := List.append_eq_singleton_iff.1 whole
          · cases tail
            exact .inl ⟨known, rfl⟩
          · cases impossible
      | some type =>
          match front with
          | [] => cases whole
          | [piece] =>
              cases whole
              exact .inr ⟨type, known, rfl, rfl⟩
          | _ :: _ :: [] => cases whole
          | _ :: _ :: _ :: front => simp [converted] at whole

/-- What stands around a placeholder shows whether it is converted, and to which type. -/
theorem Made.around_placeholder
    (named : ∀ name type, types name type → ParameterName.IsName name)
    (made : Made sigil types sql) {name : String} {front back : Fragment}
    (split : sql = front ++ .placeholder sigil name :: back) :
    types name none ∧ Lexeme.isBlunt front.render.toList = true ∨
      ∃ type, types name (some type) ∧ "CAST(".toList <:+ front.render.toList ∧
        (" AS " ++ type ++ ")").toList <+: back.render.toList := by
  obtain ⟨parts, each, rfl⟩ := made
  induction parts generalizing front with
  | nil => simp at split
  | cons part parts ih =>
      obtain ⟨first, others⟩ := List.forall_mem_cons.1 each
      rw [List.flatten_cons] at split
      have later {gap : Fragment} (rest : parts.flatten = gap ++ .placeholder sigil name :: back) :
          types name none ∧ Lexeme.isBlunt (render (part ++ gap)).toList = true ∨
            ∃ type, types name (some type) ∧ "CAST(".toList <:+ (render (part ++ gap)).toList ∧
              (" AS " ++ type ++ ")").toList <+: back.render.toList := by
        rw [render_append, String.toList_append]
        rcases ih others rest with ⟨bare, blunt⟩ | ⟨type, typed, before, after⟩
        · exact .inl ⟨bare, Lexeme.isBlunt_append (first.isBlunt named) blunt⟩
        · exact .inr ⟨type, typed, before.trans (List.suffix_append ..), after⟩
      rcases List.append_eq_append_iff.1 split with ⟨gap, rfl, rest⟩ | ⟨gap, rfl, rest⟩
      · exact later rest
      · cases gap with
        | nil => simpa using @later [] rest.symm
        | cons piece gap =>
            obtain ⟨rfl, rfl⟩ := List.cons.inj rest
            rcases first.around_placeholder with ⟨bare, rfl⟩ | ⟨type, typed, rfl, rfl⟩
            · exact .inl ⟨bare, rfl⟩
            · exact .inr ⟨type, typed, by simp [Piece.render], by simp [Piece.render]⟩

end Fragment

namespace Dialect

open Fragment

variable {dialect : Dialect} {types : String → Option String → Prop} {name : String}

/-- A placeholder is converted to a number in one dialect and left as it is in the other. -/
theorem castScalar_made (typed : dialect = .geoPackage → types name (some "NUMERIC"))
    (bare : dialect = .postgres → types name none) :
    Made dialect.sigil types (dialect.castScalar [.placeholder dialect.sigil name]) := by
  cases dialect with
  | geoPackage => exact .part (.placeholder (typed rfl))
  | postgres => exact .part (.placeholder (bare rfl))

/-- A date or a point in time is converted in one dialect and read by a function in the other. -/
theorem timeOf_made (bare : dialect = .geoPackage → types name none)
    (typed : dialect = .postgres → ∀ type, types name (some type)) :
    Made dialect.sigil types (dialect.dateOf [.placeholder dialect.sigil name]) ∧
      Made dialect.sigil types (dialect.momentOf [.placeholder dialect.sigil name]) := by
  cases dialect with
  | geoPackage =>
      have inner : Made geoPackage.sigil types [.placeholder geoPackage.sigil name] :=
        .part (.placeholder (bare rfl))
      have around {before after : String} (front : isFixed before = true)
          (back : isFixed after = true) :=
        (Made.pairing.around ⟨rfl, inner⟩ front back).2
      exact ⟨around (by decide) (by decide), around (by decide) (by decide)⟩
  | postgres => exact ⟨.part (.placeholder (typed rfl "date")),
      .part (.placeholder (typed rfl "timestamptz"))⟩

end Dialect

end Cql.Sql
