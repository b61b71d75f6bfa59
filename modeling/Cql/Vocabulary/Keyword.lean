/-!
# Reserved words

The words of the filter language that no property may be named after without quotes. They are
written in any mixture of ASCII upper and lower case.
-/

namespace Cql

/-- A reserved word that is neither a truth value nor the name of a relation. -/
inductive Keyword where
  | and | or | not | like | between | is | null | inList
  | casei | accenti | lower | upper
  | date | timestamp | now | interval
  | point | linestring | polygon | multipoint | multilinestring | multipolygon
  | geometryCollection | bbox
  deriving DecidableEq, Repr

namespace Keyword

def word : Keyword → String
  | .and => "and"
  | .or => "or"
  | .not => "not"
  | .like => "like"
  | .between => "between"
  | .is => "is"
  | .null => "null"
  | .inList => "in"
  | .casei => "casei"
  | .accenti => "accenti"
  | .lower => "lower"
  | .upper => "upper"
  | .date => "date"
  | .timestamp => "timestamp"
  | .now => "now"
  | .interval => "interval"
  | .point => "point"
  | .linestring => "linestring"
  | .polygon => "polygon"
  | .multipoint => "multipoint"
  | .multilinestring => "multilinestring"
  | .multipolygon => "multipolygon"
  | .geometryCollection => "geometrycollection"
  | .bbox => "bbox"

def all : List Keyword :=
  [.and, .or, .not, .like, .between, .is, .null, .inList, .casei, .accenti, .lower, .upper,
   .date, .timestamp, .now, .interval, .point, .linestring, .polygon, .multipoint,
   .multilinestring, .multipolygon, .geometryCollection, .bbox]

end Keyword

end Cql
