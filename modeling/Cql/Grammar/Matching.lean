import Cql.Grammar.Definition
import Cql.Grammar.Frontier
import Cql.Text.Offset
import Cql.Tree.Node

/-!
# Matching a text against the grammar

A phrase is matched from left to right. A failed part gives up everything it had built and leaves
its mark on the failure frontier only. The depth of the recursion is bounded by a counter that is
chosen from the length of the text, so that every match ends.
-/

namespace Cql.Grammar

/-- A place in the text: its byte offset and the characters that follow. -/
structure Cursor where
  offset : Nat
  rest : List Char
  deriving DecidableEq, Repr

namespace Cursor

def advance (here : Cursor) (taken rest : List Char) : Cursor :=
  ⟨here.offset + Text.byteSize taken, rest⟩

/-- One place lies behind another, with `text` between them. -/
structure Reaches (here : Cursor) (text : List Char) (stop : Cursor) : Prop where
  rest_eq : here.rest = text ++ stop.rest
  offset_eq : stop.offset = here.offset + Text.byteSize text

theorem Reaches.refl (here : Cursor) : here.Reaches [] here :=
  ⟨rfl, rfl⟩

theorem Reaches.trans {here mid stop : Cursor} {first second : List Char}
    (one : here.Reaches first mid) (two : mid.Reaches second stop) :
    here.Reaches (first ++ second) stop :=
  ⟨by rw [one.rest_eq, two.rest_eq, List.append_assoc],
   by rw [two.offset_eq, one.offset_eq, Text.byteSize_append, Nat.add_assoc]⟩

theorem reaches_advance {here : Cursor} {taken rest : List Char}
    (whole : here.rest = taken ++ rest) : here.Reaches taken (here.advance taken rest) :=
  ⟨whole, rfl⟩

end Cursor

/-- Whether a character may stand between the parts of a phrase. -/
def isBlank (c : Char) : Bool :=
  c == ' ' || c == '\t' || c == '\r' || c == '\n'

inductive Outcome where
  /-- The phrase took `text`, made `nodes`, and left off at `stop`. -/
  | matched (text : List Char) (nodes : List Node) (stop : Cursor) (frontier : Frontier)
  /-- The phrase does not stand here. -/
  | failed (frontier : Frontier)
  /-- The bound on the depth was reached. -/
  | exhausted
  deriving Repr

def matchPattern (pattern : Pattern) (here : Cursor) : Option (List Char × Cursor) :=
  (pattern.scan here.rest).map fun found => (found.1, here.advance found.1 found.2)

def matchPhrase : Nat → Phrase → Cursor → Frontier → Outcome
  | 0, _, _, _ => .exhausted
  | _ + 1, .start, here, frontier =>
      if here.offset = 0 then .matched [] [] here frontier else .failed frontier
  | _ + 1, .symbol mark, here, frontier =>
      match here.rest with
      | [] => .failed frontier
      | c :: cs =>
          if c == mark then .matched [c] [] (here.advance [c] cs) frontier else .failed frontier
  | _ + 1, .text pattern, here, frontier =>
      match matchPattern pattern here with
      | some (text, stop) => .matched text [] stop frontier
      | none => .failed frontier
  | depth + 1, .ref rule, here, frontier =>
      match definition rule with
      | .token pattern =>
          match matchPattern pattern here with
          | some (text, stop) =>
              .matched text [⟨rule, here.offset, String.ofList text, []⟩] stop frontier
          | none => .failed (frontier.note frontier here.offset rule)
      | .fragment body => matchPhrase depth body here frontier
      | .phrase body =>
          match matchPhrase depth body here frontier with
          | .matched text nodes stop frontier' =>
              .matched text [⟨rule, here.offset, String.ofList text, nodes⟩] stop frontier'
          | .failed frontier' => .failed (frontier.note frontier' here.offset rule)
          | .exhausted => .exhausted
  | depth + 1, .seq first second, here, frontier =>
      match matchPhrase depth first here frontier with
      | .matched text nodes mid frontier =>
          let blanks := mid.rest.takeWhile isBlank
          let next := mid.advance blanks (mid.rest.dropWhile isBlank)
          match matchPhrase depth second next frontier with
          | .matched text' nodes' stop frontier =>
              .matched (text ++ blanks ++ text') (nodes ++ nodes') stop frontier
          | other => other
      | other => other
  | depth + 1, .join first second, here, frontier =>
      match matchPhrase depth first here frontier with
      | .matched text nodes mid frontier =>
          match matchPhrase depth second mid frontier with
          | .matched text' nodes' stop frontier =>
              .matched (text ++ text') (nodes ++ nodes') stop frontier
          | other => other
      | other => other
  | depth + 1, .alt first second, here, frontier =>
      match matchPhrase depth first here frontier with
      | .failed frontier => matchPhrase depth second here frontier
      | other => other
  | depth + 1, .opt inner, here, frontier =>
      match matchPhrase depth inner here frontier with
      | .failed frontier => .matched [] [] here frontier
      | other => other
  | depth + 1, .again inner, here, frontier =>
      let blanks := here.rest.takeWhile isBlank
      let next := here.advance blanks (here.rest.dropWhile isBlank)
      match matchPhrase depth inner next frontier with
      | .matched text nodes mid frontier =>
          match matchPhrase depth (.again inner) mid frontier with
          | .matched text' nodes' stop frontier =>
              .matched (blanks ++ text ++ text') (nodes ++ nodes') stop frontier
          | other => other
      | .failed frontier => .matched [] [] here frontier
      | .exhausted => .exhausted

/-- A token reaches over the text that it took. -/
theorem reaches_of_matchPattern {pattern : Pattern} {here stop : Cursor} {text : List Char}
    (found : matchPattern pattern here = some (text, stop)) : here.Reaches text stop := by
  obtain ⟨parts, scanned, pair⟩ := Option.map_eq_some_iff.1 found
  cases pair
  exact Cursor.reaches_advance (pattern.eq_append_of_scan scanned)

/-- Blanks are skipped over. -/
theorem reaches_blanks (here : Cursor) :
    here.Reaches (here.rest.takeWhile isBlank)
      (here.advance (here.rest.takeWhile isBlank) (here.rest.dropWhile isBlank)) :=
  Cursor.reaches_advance List.takeWhile_append_dropWhile.symm

/-- Levels of recursion allowed for each character of the text, and once more for its end. -/
def depthPerCharacter : Nat := 256

/-- Matches a rule at the start of a text; it need not reach the end. Returns the nodes that it made
or the failure frontier. -/
def parse (rule : Rule) (text : List Char) : Except Frontier (List Node) :=
  match matchPhrase (depthPerCharacter * (text.length + 1)) (.ref rule) ⟨0, text⟩ {} with
  | .matched _ nodes _ _ => .ok nodes
  | .failed frontier => .error frontier
  | .exhausted => .error {}

end Cql.Grammar
