import Cql.Sql.Function
import Cql.Sql.Operand
import Cql.Vocabulary.Relation

/-!
# SQL dialects

Filters are compiled for SQLite with the SpatiaLite extension, as used for GeoPackage files, and
for PostgreSQL with PostGIS. A dialect never sees a literal: it only arranges fragments that are
already placeholders, columns or fixed text.
-/

namespace Cql.Sql

inductive Dialect where
  | geoPackage
  | postgres
  deriving DecidableEq, Repr

namespace Dialect

def name : Dialect → String
  | .geoPackage => "GeoPackage"
  | .postgres => "PostgreSQL"

def key : Dialect → String
  | .geoPackage => "geopackage"
  | .postgres => "postgres"

def aliases : Dialect → List String
  | .geoPackage => ["geopackage", "gpkg", "sqlite"]
  | .postgres => ["postgres", "postgresql", "pg"]

def ofAlias? (name : String) : Option Dialect :=
  [geoPackage, postgres].find? fun dialect => dialect.aliases.contains name

def ofName? (name : String) : Option Dialect :=
  [geoPackage, postgres].find? fun dialect => dialect.aliases.any (Text.sameWord name)

def unknownMessage (name : String) : String :=
  "unknown SQL dialect '" ++ name ++ "', expected 'geopackage' or 'postgres'"

def sigil : Dialect → Char
  | .geoPackage => ':'
  | .postgres => '@'

def truthText : Dialect → Bool → String
  | .geoPackage, true => "1"
  | .geoPackage, false => "0"
  | .postgres, true => "true"
  | .postgres, false => "false"

/-- A bound number or truth value where no column gives it a type. Bound values arrive as text, and
SQLite sorts text after every number, so there it is converted. -/
def castScalar (dialect : Dialect) (placeholder : Fragment) : Fragment :=
  match dialect with
  | .geoPackage => "CAST(" ++ placeholder ++ " AS NUMERIC)"
  | .postgres => placeholder

def sqlFunction? (dialect : Dialect) (name : String) : Option String :=
  match dialect with
  | .geoPackage => (function? name).map Prod.fst
  | .postgres =>
      match Text.lower name with
      | "abs" => some "abs"
      | "coalesce" => some "coalesce"
      | "length" => some "char_length"
      | "lower" => some "lower"
      | "round" => some "round"
      | "substr" => some "substr"
      | "trim" => some "trim"
      | "upper" => some "upper"
      | _ => none

/-- The SQL function behind a text function. SQLite cannot take accents off. -/
def textFunction? : Dialect → TextFunction → Option String
  | _, .casei => some "lower"
  | _, .lower => some "lower"
  | _, .upper => some "upper"
  | .geoPackage, .accenti => none
  | .postgres, .accenti => some "unaccent"

def geometryFunction : SpatialRelation → String
  | .intersects => "ST_Intersects"
  | .equals => "ST_Equals"
  | .disjoint => "ST_Disjoint"
  | .touches => "ST_Touches"
  | .within => "ST_Within"
  | .overlaps => "ST_Overlaps"
  | .crosses => "ST_Crosses"
  | .contains => "ST_Contains"

/-- A relation between two geometries. In SQLite the result is a number, which is one where the
relation holds. -/
def relateGeometries (dialect : Dialect) (relation : SpatialRelation) (left right : Fragment) :
    Operand :=
  let test := Fragment.call (geometryFunction relation) [left, right]
  match dialect with
  | .geoPackage => .closed (Fragment.bracketed (test ++ " = 1"))
  | .postgres => .loose test

def geometryOf (placeholder : Fragment) : Fragment :=
  Fragment.call "ST_GeomFromText" [placeholder]

def rectangle (dialect : Dialect) (west south east north : Fragment) : Fragment :=
  match dialect with
  | .geoPackage => Fragment.call "BuildMbr" [west, south, east, north]
  | .postgres => Fragment.call "ST_MakeEnvelope" [west, south, east, north]

def dateOf (dialect : Dialect) (placeholder : Fragment) : Fragment :=
  match dialect with
  | .geoPackage => "date(" ++ placeholder ++ ")"
  | .postgres => "CAST(" ++ placeholder ++ " AS date)"

def momentOf (dialect : Dialect) (placeholder : Fragment) : Fragment :=
  match dialect with
  | .geoPackage => "datetime(" ++ placeholder ++ ")"
  | .postgres => "CAST(" ++ placeholder ++ " AS timestamptz)"

def present : Dialect → Fragment
  | .geoPackage => "datetime('now')"
  | .postgres => "NOW()"

/-- An interval used as a value; a missing end is open. -/
def rangeOf (dialect : Dialect) (first last : Option Fragment) : Fragment :=
  let limit (sql : Option Fragment) : Fragment := sql.getD "NULL"
  match dialect with
  | .geoPackage => Fragment.call "json_array" [limit first, limit last]
  | .postgres => Fragment.call "tstzrange" [limit first, limit last, "'[]'"]

def arrayOf (dialect : Dialect) (elements : List Fragment) : Fragment :=
  match dialect with
  | .geoPackage => Fragment.call "json_array" elements
  | .postgres =>
      if elements.isEmpty then "'\x7b\x7d'" else "ARRAY[" ++ Fragment.joined ", " elements ++ "]"

def jsonValues (sql : Fragment) : Fragment :=
  "SELECT value FROM " ++ Fragment.call "json_each" [sql]

/-- The test that no value of `inner` is missing from `outer`, both stored as JSON text. -/
def jsonContains (outer inner : Fragment) : Fragment :=
  "(NOT EXISTS (" ++ jsonValues inner ++ " EXCEPT " ++ jsonValues outer ++ "))"

def relateArrays (dialect : Dialect) (relation : ArrayRelation) (left right : Fragment) :
    Fragment :=
  match dialect, relation with
  | .geoPackage, .equals =>
      Fragment.bracketed
        (Fragment.call "json" [left] ++ " = " ++ Fragment.call "json" [right])
  | .geoPackage, .contains => jsonContains left right
  | .geoPackage, .containedBy => jsonContains right left
  | .geoPackage, .overlaps =>
      "(EXISTS (" ++ jsonValues left ++ " INTERSECT " ++ jsonValues right ++ "))"
  | .postgres, .equals => Fragment.bracketed (left ++ " = " ++ right)
  | .postgres, .contains => Fragment.bracketed (left ++ " @> " ++ right)
  | .postgres, .containedBy => Fragment.bracketed (left ++ " <@ " ++ right)
  | .postgres, .overlaps => Fragment.bracketed (left ++ " && " ++ right)

/-! ## Operands as SQL -/

def value (dialect : Dialect) : Operand → Fragment
  | .expr sql _ => sql
  | .column sql => sql
  | .scalar sql true => dialect.castScalar sql
  | .scalar sql false => sql
  | .openEnd => "NULL"
  | .interval first last => dialect.rangeOf first last

/-- The operand as a value that is compared with something. A scalar that is compared with a column
takes the type of the column and stays as it is. -/
def valueBeside (dialect : Dialect) (besideColumn : Bool) (operand : Operand) : Fragment :=
  match operand with
  | .scalar sql bound => if besideColumn then sql else dialect.value (.scalar sql bound)
  | other => dialect.value other

def closedValue (dialect : Dialect) (operand : Operand) : Fragment :=
  if operand.isClosed then dialect.value operand
  else Fragment.bracketed (dialect.value operand)

def comparedValues (dialect : Dialect) : List Operand → List Fragment
  | [] => []
  | first :: others =>
      dialect.valueBeside (others.any Operand.isColumn) first
        :: others.map (dialect.valueBeside first.isColumn)

end Dialect

end Cql.Sql
