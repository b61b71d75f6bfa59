import Cql.Grammar.Phrase

/-!
# The filter grammar

What every rule stands for. Choices are ordered, so that where two alternatives begin alike the
longer one stands first: a function call before a property name, a box with heights before a box
without.
-/

namespace Cql.Grammar

namespace Pattern

def blank : Pattern :=
  firstOf [.literal " ", .literal "\t", .literal "\r", .literal "\n"]

def digit : Pattern :=
  .one .digit

def sign : Pattern :=
  .literal "+" <|> .literal "-"

def number : Pattern :=
  opt sign
    ++ (many1 digit ++ opt (.literal "." ++ many digit) <|> .literal "." ++ many1 digit)
    ++ opt (.caseless "e" ++ opt sign ++ many1 digit)

def identifierStart : Pattern :=
  .one .identifierStart <|> .literal "_"

def identifierPart : Pattern :=
  .one .identifierContinue <|> .literal "." <|> .literal ":"

def wholeWord (pattern : Pattern) : Pattern :=
  pattern ++ .not identifierPart

/-- The text between two equal quotation marks, in which the mark itself stands doubled. -/
def quotedChar (mark : String) : Pattern :=
  .literal (mark ++ mark) <|> .not (.literal mark) ++ .one .any

def keyword (word : Keyword) : Pattern :=
  wholeWord (.caseless word.word)

def booleanLiteral : Pattern :=
  wholeWord (.caseless "true" <|> .caseless "false")

def spatialWords : List String :=
  ["s_intersects", "s_equals", "s_disjoint", "s_touches", "s_within", "s_overlaps", "s_crosses",
   "s_contains"]

def temporalWords : List String :=
  ["t_after", "t_before", "t_contains", "t_disjoint", "t_during", "t_equals", "t_finishedby",
   "t_finishes", "t_intersects", "t_meets", "t_metby", "t_overlappedby", "t_overlaps",
   "t_startedby", "t_starts"]

def arrayWords : List String :=
  ["a_equals", "a_containedby", "a_contains", "a_overlaps"]

def wordOf (words : List String) : Pattern :=
  wholeWord (firstOf (words.map .caseless))

def spatialFunction : Pattern :=
  wordOf spatialWords

def temporalFunction : Pattern :=
  wordOf temporalWords

def arrayFunction : Pattern :=
  wordOf arrayWords

def anyKeyword : Pattern :=
  firstOf (Keyword.all.map keyword
    ++ [booleanLiteral, spatialFunction, temporalFunction, arrayFunction])

/-- An identifier between double quotes; it has at least one character. -/
def quotedIdentifier : Pattern :=
  .literal "\"" ++ many1 (quotedChar "\"") ++ .literal "\""

def bareIdentifier : Pattern :=
  .not anyKeyword ++ identifierStart ++ many identifierPart

def characterLiteral : Pattern :=
  .literal "'" ++ many (quotedChar "'") ++ .literal "'"

def fullDate : Pattern :=
  times digit 4 ++ .literal "-" ++ times digit 2 ++ .literal "-" ++ times digit 2

def utcTime : Pattern :=
  times digit 2 ++ .literal ":" ++ times digit 2 ++ .literal ":" ++ times digit 2
    ++ opt (.literal "." ++ many1 digit) ++ .caseless "z"

/-- A comparison operator; the longer ones come first. -/
def comparisonOperator : Pattern :=
  firstOf [.literal "<>", .literal "<=", .literal ">=", .literal "=", .literal "<", .literal ">"]

end Pattern

namespace Phrase

def kw (word : Keyword) : Phrase :=
  .ref (.keyword word)

def characterCall (inner : Rule) : Phrase :=
  kw .casei ++ bracketed inner
    <|> kw .accenti ++ bracketed inner
    <|> kw .lower ++ bracketed inner
    <|> kw .upper ++ bracketed inner
    <|> (Rule.characterLiteral : Phrase)

/-- A function call or a property; the call is tried first, since both begin with an identifier. -/
def functionOrProperty : Phrase :=
  (Rule.function : Phrase) <|> (Rule.propertyName : Phrase)

end Phrase

open Phrase Rule in
def definition : Rule → Definition
  | .whiteSpace => .fragment (spaced Pattern.blank)
  | .cqlFilter => .phrase (start ++ booleanExpression ++ endOfInput)
  | .booleanExpression => .phrase (booleanTerm ++ many (kw .or ++ booleanTerm))
  | .booleanTerm => .phrase (booleanFactor ++ many (kw .and ++ booleanFactor))
  | .booleanFactor => .phrase (opt (kw .not) ++ booleanPrimary)
  | .booleanPrimary =>
      .phrase (predicate <|> booleanLiteral <|> bracketed booleanExpression <|> function)
  | .predicate =>
      .phrase (comparisonPredicate <|> spatialPredicate <|> temporalPredicate <|> arrayPredicate)
  | .comparisonPredicate =>
      .phrase (binaryComparisonPredicate <|> isLikePredicate <|> isBetweenPredicate
        <|> isInListPredicate <|> isNullPredicate)
  | .binaryComparisonPredicate =>
      .phrase (scalarExpression ++ comparisonOperator ++ scalarExpression)
  | .comparisonOperator => .token Pattern.comparisonOperator
  | .isLikePredicate =>
      .phrase (characterExpression ++ opt (kw .not) ++ kw .like ++ patternExpression)
  | .isBetweenPredicate =>
      .phrase (numericExpression ++ opt (kw .not) ++ kw .between ++ numericExpression
        ++ kw .and ++ numericExpression)
  | .isInListPredicate =>
      .phrase (scalarExpression ++ opt (kw .not) ++ kw .inList
        ++ bracketed (listed scalarExpression))
  | .isNullPredicate => .phrase (isNullOperand ++ kw .is ++ opt (kw .not) ++ kw .null)
  | .isNullOperand =>
      .phrase (characterClause <|> numericLiteral <|> booleanLiteral <|> instantInstance
        <|> geometryLiteral <|> functionOrProperty)
  | .scalarExpression =>
      .phrase (characterClause <|> numericLiteral <|> instantInstance <|> booleanLiteral
        <|> functionOrProperty)
  | .characterExpression => .phrase (characterClause <|> functionOrProperty)
  | .patternExpression => .phrase (characterCall patternExpression)
  | .characterClause => .phrase (characterCall characterExpression)
  | .numericExpression => .phrase (numericLiteral <|> functionOrProperty)
  | .characterLiteral => .token Pattern.characterLiteral
  | .numericLiteral => .token Pattern.number
  | .booleanLiteral => .token Pattern.booleanLiteral
  | .propertyName => .phrase identifier
  | .number => .fragment (spaced Pattern.number)
  | .identifier => .token (Pattern.quotedIdentifier <|> Pattern.bareIdentifier)
  | .quotedIdentifier => .fragment (spaced Pattern.quotedIdentifier)
  | .bareIdentifier => .fragment (spaced Pattern.bareIdentifier)
  | .identifierStart => .fragment (spaced Pattern.identifierStart)
  | .identifierPart => .fragment (spaced Pattern.identifierPart)
  | .spatialPredicate =>
      .phrase (spatialFunction ++ bracketed (comma geomExpression geomExpression))
  | .spatialFunction => .token Pattern.spatialFunction
  | .geomExpression => .phrase (spatialInstance <|> functionOrProperty)
  | .spatialInstance => .phrase (geometryLiteral <|> geometryCollection <|> bbox)
  | .geometryLiteral =>
      .phrase (point <|> linestring <|> polygon <|> multiPoint <|> multiLinestring <|> multiPolygon)
  | .point => .phrase (kw .point ++ bracketed coordinate)
  | .linestring => .phrase (kw .linestring ++ linestringDef)
  | .linestringDef => .phrase (bracketed (listed coordinate))
  | .polygon => .phrase (kw .polygon ++ polygonDef)
  | .polygonDef => .phrase (bracketed (listed linestringDef))
  | .multiPoint => .phrase (kw .multipoint ++ bracketed (listed coordinate))
  | .multiLinestring => .phrase (kw .multilinestring ++ bracketed (listed linestringDef))
  | .multiPolygon => .phrase (kw .multipolygon ++ bracketed (listed polygonDef))
  | .geometryCollection =>
      .phrase (kw .geometryCollection ++ bracketed (listed geometryLiteral))
  | .bbox =>
      .phrase (kw .bbox ++ bracketed (comma westBoundLon (comma southBoundLat
        (comma minElev (comma eastBoundLon (comma northBoundLat maxElev))
          <|> comma eastBoundLon northBoundLat))))
  | .coordinate => .phrase (xCoord ++ yCoord ++ opt zCoord)
  | .xCoord | .yCoord | .zCoord | .westBoundLon | .eastBoundLon | .northBoundLat
  | .southBoundLat | .minElev | .maxElev => .token Pattern.number
  | .temporalPredicate =>
      .phrase (temporalFunction ++ bracketed (comma temporalExpression temporalExpression))
  | .temporalFunction => .token Pattern.temporalFunction
  | .temporalExpression => .phrase (temporalClause <|> functionOrProperty)
  | .temporalClause => .phrase (instantInstance <|> interval)
  | .instantInstance =>
      .phrase (kw .date ++ bracketed dateString <|> kw .timestamp ++ bracketed timestampString
        <|> now)
  | .now => .phrase (kw .now ++ .symbol '(' ++ .symbol ')')
  | .interval => .phrase (kw .interval ++ bracketed (comma intervalParameter intervalParameter))
  | .intervalParameter =>
      .phrase (timestampString <|> dateString <|> dotDotString <|> now <|> functionOrProperty)
  | .dateString => .token (.literal "'" ++ Pattern.fullDate ++ .literal "'")
  | .timestampString =>
      .token (.literal "'" ++ Pattern.fullDate ++ .caseless "t" ++ Pattern.utcTime ++ .literal "'")
  | .dotDotString => .token (.literal "'..'")
  | .fullDate => .fragment (spaced Pattern.fullDate)
  | .utcTime => .fragment (spaced Pattern.utcTime)
  | .arrayPredicate =>
      .phrase (arrayFunction ++ bracketed (comma arrayExpression arrayExpression))
  | .arrayFunction => .token Pattern.arrayFunction
  | .arrayExpression => .phrase (arrayClause <|> functionOrProperty)
  | .arrayClause => .phrase (bracketed (opt (listed arrayElement)))
  | .arrayElement =>
      .phrase (characterClause <|> numericLiteral <|> booleanLiteral <|> temporalClause
        <|> arrayClause <|> functionOrProperty)
  | .function => .phrase (identifier ++ argumentList)
  | .argumentList => .phrase (bracketed (opt (listed argument)))
  | .argument =>
      .phrase (characterClause <|> numericLiteral <|> booleanLiteral <|> geometryLiteral
        <|> temporalClause <|> arrayClause <|> functionOrProperty)
  | .anyKeyword =>
      .fragment (firstOf (Keyword.all.map .keyword
        ++ [booleanLiteral, spatialFunction, temporalFunction, arrayFunction]))
  | .keyword word => .token (Pattern.keyword word)
  | .endOfInput => .token (.not (.one .any))

end Cql.Grammar
