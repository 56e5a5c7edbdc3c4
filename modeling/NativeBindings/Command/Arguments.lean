/-!
# The command line

The command takes the source headers as positional arguments and these options:

* `--out FILE`, `--lib TEXT`, `--class-name TEXT`, `--config FILE`, each taking a value, the
  last one given counting;
* `--clang-arg TEXT` and `-I TEXT`, which may be repeated and collect their values in order;
* the switches `--follow-includes` / `--no-follow-includes` and `--follow-system-includes` /
  `--no-follow-system-includes`, the last one given counting, `-v` / `--verbose`, and `--help`.

A long option takes its value from the next argument, or after `=` in the same argument; a short
one from the rest of its argument, or from the next. Short switches may share one argument
(`-vIinc`). Options and sources may come in any order; after `--` every argument is a source.
An argument that starts with `-` and is more than `-` is an option, and one that names none is
an error, as is a missing value, or a value given to a switch.
-/

namespace NativeBindings.Command

/-- What an option sets. -/
inductive Setting where
  | output
  | library
  | className
  | clangArg
  | includeDir
  | config
  | follow (on : Bool)
  | followSystem (on : Bool)
  | verbose
  | help
deriving DecidableEq, Repr, Inhabited

/-- Whether an option takes a value. -/
def Setting.takesValue : Setting → Bool
  | .output | .library | .className | .clangArg | .includeDir | .config => true
  | _ => false

/-- The long options by name. -/
def longOptions : List (String × Setting) :=
  [("--out", .output), ("--lib", .library), ("--class-name", .className),
   ("--clang-arg", .clangArg), ("--follow-includes", .follow true),
   ("--no-follow-includes", .follow false), ("--follow-system-includes", .followSystem true),
   ("--no-follow-system-includes", .followSystem false), ("--config", .config),
   ("--verbose", .verbose), ("--help", .help)]

/-- The short options by letter. -/
def shortOptions : List (Char × Setting) := [('I', .includeDir), ('v', .verbose)]

/-- The arguments of one invocation, as given. -/
structure Arguments where
  sources : List String := []
  output : Option String := none
  libraryName : Option String := none
  className : Option String := none
  clangArgs : List String := []
  includeDirs : List String := []
  followIncludes : Option Bool := none
  followSystemIncludes : Option Bool := none
  configFile : Option String := none
  verbose : Bool := false
  help : Bool := false
deriving Repr, Inhabited

/-- Why the command line is not accepted. -/
inductive UsageError where
  | noSuchOption (name : String)
  | needsValue (name : String)
  | takesNoValue (name : String)
  | missingSources
  | missingPath (path : String)
  | isDirectory (path : String)
deriving Repr, Inhabited

/-- The text of a usage error. -/
def UsageError.message : UsageError → String
  | .noSuchOption n => "No such option: " ++ n
  | .needsValue n => "Option '" ++ n ++ "' requires an argument."
  | .takesNoValue n => "Option '" ++ n ++ "' does not take a value."
  | .missingSources => "Missing argument 'SOURCES...'."
  | .missingPath p => "Path '" ++ p ++ "' does not exist."
  | .isDirectory p => "File '" ++ p ++ "' is a directory."

namespace Arguments

/-- Applies an option with its value. -/
def apply (a : Arguments) (s : Setting) (v : String) : Arguments :=
  match s with
  | .output => { a with output := some v }
  | .library => { a with libraryName := some v }
  | .className => { a with className := some v }
  | .clangArg => { a with clangArgs := a.clangArgs ++ [v] }
  | .includeDir => { a with includeDirs := a.includeDirs ++ [v] }
  | .config => { a with configFile := some v }
  | .follow on => { a with followIncludes := some on }
  | .followSystem on => { a with followSystemIncludes := some on }
  | .verbose => { a with verbose := true }
  | .help => { a with help := true }

/-- Reads the letters of a group of short options, with the arguments after the group; gives
the arguments left. -/
def shortGroup : List Char → List String → Arguments → Except UsageError (Arguments × List String)
  | [], rest, a => .ok (a, rest)
  | c :: cs, rest, a =>
    match shortOptions.lookup c with
    | none => .error (.noSuchOption (String.ofList ['-', c]))
    | some s =>
      if s.takesValue then
        if !cs.isEmpty then .ok (a.apply s (String.ofList cs), rest)
        else
          match rest with
          | v :: more => .ok (a.apply s v, more)
          | [] => .error (.needsValue (String.ofList ['-', c]))
      else shortGroup cs rest (a.apply s "")

/-- Splits `--name=value` at its first `=`. -/
def splitValue (arg : String) : String × Option String :=
  match arg.splitOn "=" with
  | name :: v :: more => (name, some ("=".intercalate (v :: more)))
  | _ => (arg, none)

/-- Reads the arguments, at most `fuel` of them. -/
def parseWith : Nat → List String → Arguments → Except UsageError Arguments
  | 0, _, a => .ok a
  | _, [], a => .ok a
  | fuel + 1, arg :: rest, a =>
    if arg == "--" then .ok { a with sources := a.sources ++ rest }
    else if arg.startsWith "-" && arg.length > 1 then
      let (name, explicit) := splitValue arg
      match longOptions.lookup name with
      | some s =>
        if s.takesValue then
          match explicit, rest with
          | some v, _ => parseWith fuel rest (a.apply s v)
          | none, v :: more => parseWith fuel more (a.apply s v)
          | none, [] => .error (.needsValue name)
        else if explicit.isSome then .error (.takesNoValue name)
        else parseWith fuel rest (a.apply s "")
      | none =>
        if arg.startsWith "--" then .error (.noSuchOption name)
        else do
          let (a, rest) ← shortGroup (arg.toList.drop 1) rest a
          parseWith fuel rest a
    else parseWith fuel rest { a with sources := a.sources ++ [arg] }

/-- Reads a command line. -/
def parse (args : List String) : Except UsageError Arguments :=
  parseWith (args.length + 1) args {}

end Arguments

/-- The help text of the command. -/
def helpText : String :=
  "Usage: main [OPTIONS] SOURCES...\n\n" ++
  "  Generate C# P/Invoke declarations from C sources.\n\n" ++
  "Options:\n" ++
  "  --out FILE                      Output file (defaults to stdout)\n" ++
  "  --lib TEXT                      Native library name for [DllImport]\n" ++
  "  --class-name TEXT               Name of the class holding extern functions\n" ++
  "  --clang-arg TEXT                Extra argument passed to clang\n" ++
  "  -I TEXT                         Include directory\n" ++
  "  --follow-includes / --no-follow-includes\n" ++
  "                                  Traverse included files\n" ++
  "  --follow-system-includes / --no-follow-system-includes\n" ++
  "                                  Also traverse headers outside the include\n" ++
  "                                  roots\n" ++
  "  --config FILE                   JSON configuration file\n" ++
  "  -v, --verbose                   Debug logging\n" ++
  "  --help                          Show this message and exit.\n"

end NativeBindings.Command
