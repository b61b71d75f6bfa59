import Cql.Sql.Dialect
import Cql.Compile.LiteralPlacement

/-!
# Command lines

The arguments of the command `cql2sql` are read from left to right. A command comes first, and its
options and the filter follow in any order; after a lone `--` nothing is an option any more.
-/

namespace Cql.Command

open Cql.Sql

inductive Source where
  /-- It is an argument. -/
  | argument (filter : String)
  /-- It is read from the standard input. -/
  | standardInput
  /-- It is read from a file. -/
  | file (path : String)
  /-- It is missing. -/
  | missing
  deriving DecidableEq, Repr

inductive Task where
  /-- It is compiled to SQL. -/
  | compile (dialect : Dialect) (queryables : String) (literals : LiteralPlacement)
  /-- Its errors are listed. -/
  | check
  /-- Its syntax tree is printed. -/
  | tree
  deriving DecidableEq, Repr

inductive Request where
  /-- A task. -/
  | run (task : Task) (source : Source)
  /-- The version. -/
  | version
  /-- An explanation of the command line. -/
  | help
  /-- Nothing that makes sense. -/
  | unusable
  deriving DecidableEq, Repr

inductive Argument where
  /-- The mark after which nothing is an option. -/
  | escape
  /-- An option by its name, with the value after an equals sign. -/
  | option (name : String) (value : Option String)
  /-- A cluster of one-letter options. -/
  | letters (first : Char)
  /-- Anything else. -/
  | plain (text : String)
  deriving DecidableEq, Repr

def Argument.ofString (argument : String) : Argument :=
  match argument.toList with
  | ['-', '-'] => .escape
  | '-' :: '-' :: cs =>
      let name := cs.takeWhile (· != '=')
      match cs.dropWhile (· != '=') with
      | [] => .option (String.ofList name) none
      | _ :: value => .option (String.ofList name) (some (String.ofList value))
  | '-' :: c :: _ => .letters c
  | _ => .plain argument

inductive Verb where
  | compile | check | tree
  deriving DecidableEq, Repr

def Verb.ofString? : String → Option Verb
  | "compile" => some .compile
  | "check" => some .check
  | "tree" => some .tree
  | _ => none

structure Options where
  filter : Option String := none
  file : Option String := none
  dialect : Option Dialect := none
  queryables : Option String := none
  inlineNumbers : Bool := false
  inlineBooleans : Bool := false
  verbose : Bool := false
  deriving DecidableEq, Repr

namespace Options

def withFilter (options : Options) (filter : String) : Option Options :=
  if options.filter.isSome then none else some { options with filter := some filter }

def withSwitch (options : Options) (verb : Verb) (name : String) : Option Options :=
  match verb, name with
  | _, "verbose" =>
      if options.verbose then none else some { options with verbose := true }
  | .compile, "inline-numbers" =>
      if options.inlineNumbers then none else some { options with inlineNumbers := true }
  | .compile, "inline-booleans" =>
      if options.inlineBooleans then none else some { options with inlineBooleans := true }
  | _, _ => none

def takesValue (verb : Verb) (name : String) : Bool :=
  name == "file" || (verb == .compile && (name == "dialect" || name == "queryables"))

/-- Sets an option with a value, unless it is set. The path of a file must not be empty, and the
dialect has to exist. -/
def withValue (options : Options) (name value : String) : Option Options :=
  match name with
  | "file" =>
      if options.file.isSome || value.isEmpty then none
      else some { options with file := some value }
  | "dialect" =>
      if options.dialect.isSome then none
      else (Dialect.ofName? value).map fun dialect => { options with dialect := some dialect }
  | "queryables" =>
      if options.queryables.isSome then none
      else some { options with queryables := some value }
  | _ => none

/-- Where the filter comes from; it cannot be given twice. -/
def source? (options : Options) : Option Source :=
  match options.filter, options.file with
  | some _, some _ => none
  | some filter, none => some (.argument filter)
  | none, some path => some (if path == "-" then .standardInput else .file path)
  | none, none => some .missing

def task? (options : Options) : Verb → Option Task
  | .check => some .check
  | .tree => some .tree
  | .compile => options.queryables.map fun queryables =>
      let placement (inlined : Bool) : Placement := if inlined then .inline else .bound
      .compile (options.dialect.getD .geoPackage) queryables
        ⟨placement options.inlineNumbers, placement options.inlineBooleans⟩

def toRequest (options : Options) (verb : Verb) : Request :=
  match options.task? verb, options.source? with
  | some task, some source => .run task source
  | _, _ => .unusable

end Options

namespace Request

def ofFilters (verb : Verb) : List String → Options → Request
  | [], options => options.toRequest verb
  | argument :: arguments, options =>
      match options.withFilter argument with
      | some options => ofFilters verb arguments options
      | none => .unusable

def ofOptions (verb : Verb) : List String → Options → Request
  | [], options => options.toRequest verb
  | argument :: arguments, options =>
      match Argument.ofString argument with
      | .escape => ofFilters verb arguments options
      | .plain filter =>
          match options.withFilter filter with
          | some options => ofOptions verb arguments options
          | none => .unusable
      | .letters first => if first == 'h' then .help else .unusable
      | .option "help" none => .help
      | .option name none =>
          if Options.takesValue verb name then
            match arguments with
            | [] => .unusable
            | value :: arguments =>
                match Argument.ofString value with
                | .plain value =>
                    match options.withValue name value with
                    | some options => ofOptions verb arguments options
                    | none => .unusable
                | _ => .unusable
          else
            match options.withSwitch verb name with
            | some options => ofOptions verb arguments options
            | none => .unusable
      | .option name (some value) =>
          if Options.takesValue verb name then
            match options.withValue name value with
            | some options => ofOptions verb arguments options
            | none => .unusable
          else .unusable

def ofTopics : List String → Request
  | [] => .help
  | [topic] => if topic == "help" || (Verb.ofString? topic).isSome then .help else .unusable
  | _ => .unusable

/-- Reads a command line; `verbose` says that the switch of that name came already. -/
def ofArgumentsFrom (verbose : Bool) : List String → Request
  | [] => .unusable
  | argument :: arguments =>
      match Argument.ofString argument with
      | .escape => .unusable
      | .plain word =>
          match Verb.ofString? word with
          | some verb => ofOptions verb arguments {}
          | none => if word == "help" then ofTopics arguments else .unusable
      | .letters first =>
          if first == 'h' then .help else if first == 'V' then .version else .unusable
      | .option "help" none => .help
      | .option "version" none => .version
      | .option "verbose" none => if verbose then .unusable else ofArgumentsFrom true arguments
      | .option _ _ => .unusable

def ofArguments (arguments : List String) : Request :=
  ofArgumentsFrom false arguments

end Request

end Cql.Command
