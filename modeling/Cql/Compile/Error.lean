import Cql.Filter.SyntaxError
import Cql.Text.Escaped

/-!
# Reasons not to compile a filter

Each reason has a message for users and a form that shows its parts for diagnostics.
-/

namespace Cql

inductive CompileError where
  /-- The filter is malformed. -/
  | malformed (errors : List SyntaxError)
  /-- A property may not be used. -/
  | forbiddenProperty (property : String)
  /-- There is no such function. -/
  | unknownFunction (name dialect : String)
  /-- A function has the wrong number of arguments. -/
  | argumentCount (name expected : String) (found : Nat)
  /-- The dialect cannot express something. -/
  | inexpressible (construct dialect : String)
  /-- The compilation went wrong by itself. -/
  | fault (detail : String)
  deriving DecidableEq, Repr

def SyntaxError.describe (error : SyntaxError) : String :=
  s!"SyntaxError \x7b line: {error.line}, column: {error.column}, offset: {error.offset}, "
    ++ "message: " ++ Text.quoted error.message ++ " \x7d"

def SyntaxError.describeAll (errors : List SyntaxError) : String :=
  "SyntaxErrors([" ++ String.intercalate ", " (errors.map describe) ++ "])"

namespace CompileError

def message : CompileError → String
  | .malformed errors => SyntaxError.renderAll errors
  | .forbiddenProperty property =>
      s!"property '{property}' cannot be used in CQL filter, is not a queryable property"
  | .unknownFunction name dialect =>
      s!"function '{name}' is not supported by the {dialect} dialect"
  | .argumentCount name expected found =>
      s!"function '{name}' takes {expected} argument(s), got {found}"
  | .inexpressible construct dialect =>
      s!"{construct} is not supported by the {dialect} dialect"
  | .fault detail => s!"internal error while translating CQL filter: {detail}"

def describe : CompileError → String
  | .malformed errors => "Syntax(" ++ SyntaxError.describeAll errors ++ ")"
  | .forbiddenProperty property => "NotQueryable \x7b property: " ++ Text.quoted property ++ " \x7d"
  | .unknownFunction name dialect =>
      "UnsupportedFunction \x7b name: " ++ Text.quoted name ++ ", dialect: "
        ++ Text.quoted dialect ++ " \x7d"
  | .argumentCount name expected found =>
      "FunctionArity \x7b name: " ++ Text.quoted name ++ ", expected: " ++ Text.quoted expected
        ++ s!", found: {found} \x7d"
  | .inexpressible construct dialect =>
      "Unsupported \x7b construct: " ++ Text.quoted construct ++ ", dialect: "
        ++ Text.quoted dialect ++ " \x7d"
  | .fault detail => "Internal(" ++ Text.quoted detail ++ ")"

end CompileError

end Cql
