import Cql.Grammar.Pattern
import Cql.Grammar.Rule

/-!
# Phrases

A phrase describes how tokens and other phrases follow each other. Blanks may stand between the
parts of a sequence and between the rounds of a repetition, but not in front of the first part and
not inside a token.
-/

namespace Cql.Grammar

/-- The shape of a piece of a filter above the level of tokens. -/
inductive Phrase where
  /-- Nothing, and only at the very start of the text. -/
  | start
  /-- A punctuation mark. -/
  | symbol (mark : Char)
  /-- Adjacent characters that make no node. -/
  | text (pattern : Pattern)
  /-- Whatever a rule describes. -/
  | ref (rule : Rule)
  /-- The first phrase, blanks, and the second phrase. -/
  | seq (first second : Phrase)
  /-- The first phrase and, right after it, the second. -/
  | join (first second : Phrase)
  /-- The first phrase or, where it fails, the second. -/
  | alt (first second : Phrase)
  /-- The phrase or nothing. -/
  | opt (inner : Phrase)
  /-- Blanks and the phrase, as often as they match together. -/
  | again (inner : Phrase)
  deriving DecidableEq, Repr

namespace Phrase

instance : Coe Rule Phrase := ⟨.ref⟩

instance : Append Phrase := ⟨.seq⟩

instance : OrElse Phrase := ⟨fun first second => .alt first (second ())⟩

def many (inner : Phrase) : Phrase :=
  .opt (.join inner (.again inner))

def bracketed (inner : Phrase) : Phrase :=
  .symbol '(' ++ inner ++ .symbol ')'

def listed (inner : Phrase) : Phrase :=
  inner ++ many (.symbol ',' ++ inner)

def comma (first second : Phrase) : Phrase :=
  first ++ .symbol ',' ++ second

/-- The parts of a pattern with blanks between them. What a part excludes is excluded as adjacent
characters. -/
def spaced : Pattern → Phrase
  | .seq first second => spaced first ++ spaced second
  | .alt first second => spaced first <|> spaced second
  | .opt inner => .opt (spaced inner)
  | .many inner => many (spaced inner)
  | pattern => .text pattern

def firstOf : List Rule → Phrase
  | [] => .text .never
  | [rule] => .ref rule
  | rule :: next :: others => .ref rule <|> firstOf (next :: others)

end Phrase

inductive Definition where
  /-- A token: it makes a leaf, and nothing inside it is looked at. -/
  | token (pattern : Pattern)
  /-- A phrase: it makes a node over the nodes of its parts. -/
  | phrase (body : Phrase)
  /-- A part that tokens share. Read on its own it is a phrase like any other, so that blanks may
  stand between its parts, but it makes no node over them. -/
  | fragment (body : Phrase)
  deriving DecidableEq, Repr

end Cql.Grammar
