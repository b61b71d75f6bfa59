import Cql.Sql.Identifier

/-!
# SQL fragments

A fragment is SQL text with its holes still visible: beside fixed text it holds the columns and the
placeholders of bound parameters as pieces of their own. Only rendering turns it into plain text.
-/

namespace Cql.Sql

inductive Piece where
  /-- Text that stands as it is. -/
  | text (sql : String)
  /-- A column, by its name. -/
  | column (name : String)
  /-- The placeholder of a parameter: the mark in front and the name. -/
  | placeholder (sigil : Char) (name : String)
  deriving DecidableEq, Repr

def Piece.render : Piece → String
  | .text sql => sql
  | .column name => Identifier.quote name
  | .placeholder sigil name => String.singleton sigil ++ name

abbrev Fragment := List Piece

namespace Fragment

instance : Coe String Fragment := ⟨fun sql => [.text sql]⟩

def render (fragment : Fragment) : String :=
  String.join (fragment.map Piece.render)

@[simp] theorem render_nil : render [] = "" := by
  simp [render]

@[simp] theorem render_cons (piece : Piece) (fragment : Fragment) :
    render (piece :: fragment) = piece.render ++ render fragment := by
  simp [render]

@[simp] theorem render_append (first second : Fragment) :
    render (first ++ second) = render first ++ render second := by
  simp [render]

def joined (separator : String) (fragments : List Fragment) : Fragment :=
  List.intercalate [.text separator] fragments

theorem render_joined (separator : String) (fragments : List Fragment) :
    (joined separator fragments).render = separator.intercalate (fragments.map render) := by
  induction fragments with
  | nil => simp [joined]
  | cons first others ih =>
      cases others with
      | nil => simp [joined]
      | cons next others =>
          rw [joined, List.intercalate_cons_cons, ← joined, render_append, render_append, ih]
          simp [String.intercalate_cons_cons, Piece.render]

def bracketed (fragment : Fragment) : Fragment :=
  "(" ++ fragment ++ ")"

def call (function : String) (arguments : List Fragment) : Fragment :=
  function ++ bracketed (joined ", " arguments)

end Fragment

end Cql.Sql
