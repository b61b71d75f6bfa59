import Cql.Vocabulary.Keyword

/-!
# Grammar rules

The rules of the filter grammar by name, and the label each of them has in a list of what the
reader of a filter expected.
-/

namespace Cql

inductive Rule where
  | whiteSpace
  | cqlFilter | booleanExpression | booleanTerm | booleanFactor | booleanPrimary
  | predicate | comparisonPredicate | binaryComparisonPredicate | comparisonOperator
  | isLikePredicate | isBetweenPredicate | isInListPredicate | isNullPredicate | isNullOperand
  | scalarExpression | characterExpression | patternExpression | characterClause
  | numericExpression
  | characterLiteral | numericLiteral | booleanLiteral | propertyName | number
  | identifier | quotedIdentifier | bareIdentifier | identifierStart | identifierPart
  | spatialPredicate | spatialFunction | geomExpression | spatialInstance
  | geometryLiteral | point | linestring | linestringDef | polygon | polygonDef
  | multiPoint | multiLinestring | multiPolygon | geometryCollection | bbox
  | coordinate | xCoord | yCoord | zCoord
  | westBoundLon | eastBoundLon | northBoundLat | southBoundLat | minElev | maxElev
  | temporalPredicate | temporalFunction | temporalExpression | temporalClause
  | instantInstance | now | interval | intervalParameter
  | dateString | timestampString | dotDotString | fullDate | utcTime
  | arrayPredicate | arrayFunction | arrayExpression | arrayClause | arrayElement
  | function | argumentList | argument
  | anyKeyword | keyword (word : Keyword)
  | endOfInput
  deriving DecidableEq, Repr

namespace Rule

def name : Rule → String
  | .whiteSpace => "WHITESPACE"
  | .cqlFilter => "cql_filter"
  | .booleanExpression => "boolean_expression"
  | .booleanTerm => "boolean_term"
  | .booleanFactor => "boolean_factor"
  | .booleanPrimary => "boolean_primary"
  | .predicate => "predicate"
  | .comparisonPredicate => "comparison_predicate"
  | .binaryComparisonPredicate => "binary_comparison_predicate"
  | .comparisonOperator => "comparison_operator"
  | .isLikePredicate => "is_like_predicate"
  | .isBetweenPredicate => "is_between_predicate"
  | .isInListPredicate => "is_in_list_predicate"
  | .isNullPredicate => "is_null_predicate"
  | .isNullOperand => "is_null_operand"
  | .scalarExpression => "scalar_expression"
  | .characterExpression => "character_expression"
  | .patternExpression => "pattern_expression"
  | .characterClause => "character_clause"
  | .numericExpression => "numeric_expression"
  | .characterLiteral => "character_literal"
  | .numericLiteral => "numeric_literal"
  | .booleanLiteral => "boolean_literal"
  | .propertyName => "property_name"
  | .number => "number"
  | .identifier => "identifier"
  | .quotedIdentifier => "quoted_identifier"
  | .bareIdentifier => "bare_identifier"
  | .identifierStart => "identifier_start"
  | .identifierPart => "identifier_part"
  | .spatialPredicate => "spatial_predicate"
  | .spatialFunction => "spatial_function"
  | .geomExpression => "geom_expression"
  | .spatialInstance => "spatial_instance"
  | .geometryLiteral => "geometry_literal"
  | .point => "point"
  | .linestring => "linestring"
  | .linestringDef => "linestring_def"
  | .polygon => "polygon"
  | .polygonDef => "polygon_def"
  | .multiPoint => "multi_point"
  | .multiLinestring => "multi_linestring"
  | .multiPolygon => "multi_polygon"
  | .geometryCollection => "geometry_collection"
  | .bbox => "bbox"
  | .coordinate => "coordinate"
  | .xCoord => "x_coord"
  | .yCoord => "y_coord"
  | .zCoord => "z_coord"
  | .westBoundLon => "west_bound_lon"
  | .eastBoundLon => "east_bound_lon"
  | .northBoundLat => "north_bound_lat"
  | .southBoundLat => "south_bound_lat"
  | .minElev => "min_elev"
  | .maxElev => "max_elev"
  | .temporalPredicate => "temporal_predicate"
  | .temporalFunction => "temporal_function"
  | .temporalExpression => "temporal_expression"
  | .temporalClause => "temporal_clause"
  | .instantInstance => "instant_instance"
  | .now => "now"
  | .interval => "interval"
  | .intervalParameter => "interval_parameter"
  | .dateString => "date_string"
  | .timestampString => "timestamp_string"
  | .dotDotString => "dot_dot_string"
  | .fullDate => "full_date"
  | .utcTime => "utc_time"
  | .arrayPredicate => "array_predicate"
  | .arrayFunction => "array_function"
  | .arrayExpression => "array_expression"
  | .arrayClause => "array_clause"
  | .arrayElement => "array_element"
  | .function => "function"
  | .argumentList => "argument_list"
  | .argument => "argument"
  | .anyKeyword => "keyword"
  | .keyword word => "kw_" ++ word.word
  | .endOfInput => "EOI"

def structural : List Rule :=
  [.whiteSpace, .cqlFilter, .booleanExpression, .booleanTerm, .booleanFactor, .booleanPrimary,
   .predicate, .comparisonPredicate, .binaryComparisonPredicate, .comparisonOperator,
   .isLikePredicate, .isBetweenPredicate, .isInListPredicate, .isNullPredicate, .isNullOperand,
   .scalarExpression, .characterExpression, .patternExpression, .characterClause,
   .numericExpression, .characterLiteral, .numericLiteral, .booleanLiteral, .propertyName,
   .number, .identifier, .quotedIdentifier, .bareIdentifier, .identifierStart, .identifierPart,
   .spatialPredicate, .spatialFunction, .geomExpression, .spatialInstance, .geometryLiteral,
   .point, .linestring, .linestringDef, .polygon, .polygonDef, .multiPoint, .multiLinestring,
   .multiPolygon, .geometryCollection, .bbox, .coordinate, .xCoord, .yCoord, .zCoord,
   .westBoundLon, .eastBoundLon, .northBoundLat, .southBoundLat, .minElev, .maxElev,
   .temporalPredicate, .temporalFunction, .temporalExpression, .temporalClause,
   .instantInstance, .now, .interval, .intervalParameter, .dateString, .timestampString,
   .dotDotString, .fullDate, .utcTime, .arrayPredicate, .arrayFunction, .arrayExpression,
   .arrayClause, .arrayElement, .function, .argumentList, .argument, .anyKeyword, .endOfInput]

def all : List Rule :=
  structural ++ Keyword.all.map .keyword

def ofName? (name : String) : Option Rule :=
  all.find? fun rule => rule.name == name

/-- The rule as it is called in a list of expectations: a phrase for the rules that users meet, and
the spaced-out name for the rest. -/
def label : Rule → String
  | .endOfInput => "end of input"
  | .comparisonOperator => "comparison operator"
  | .characterLiteral => "character literal"
  | .numericLiteral | .numericExpression => "number"
  | .booleanLiteral => "boolean literal"
  | .identifier | .propertyName => "property name"
  | .function => "function"
  | .spatialFunction => "spatial function"
  | .temporalFunction => "temporal function"
  | .arrayFunction => "array function"
  | .dateString => "date"
  | .timestampString => "timestamp"
  | .dotDotString => "'..'"
  | .keyword .and => "AND"
  | .keyword .or => "OR"
  | .keyword .not => "NOT"
  | .keyword .like => "LIKE"
  | .keyword .between => "BETWEEN"
  | .keyword .inList => "IN"
  | .keyword .is => "IS"
  | .keyword .null => "NULL"
  | .xCoord | .yCoord | .zCoord | .westBoundLon | .eastBoundLon | .northBoundLat
  | .southBoundLat | .minElev | .maxElev => "coordinate"
  | rule => rule.name.map fun c => if c == '_' then ' ' else c

end Rule

end Cql
