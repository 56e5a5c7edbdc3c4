import NativeBindings.Command.Configure
import NativeBindings.Collection.Walk
import NativeBindings.Header.Unit
import NativeBindings.Config.File
import NativeBindings.Managed.Source

/-!
# Running the command

`run` carries out one invocation over a tree of files. The configuration is the file given with
`--config`, or else the project file found from the working directory upwards, or else the
defaults; the options given on the command line replace its values, and those that collect
values add theirs after the file's. The sources are walked in order and the C# text is written
to the output file of the configuration, or else to standard output.

The exit code is 2 for a command line that is not accepted (also for a source or configuration
file that is not there, or is a directory), 1 for a configuration or a source that cannot be
read, or for any other failure, which is then named; otherwise 0.
-/

namespace NativeBindings.Command

/-- What an invocation gives: its exit code, its standard output, the failure it stopped with
when that is not a usual error, its messages for the user, and the files afterwards. -/
structure Outcome where
  exitCode : Nat
  stdout : String := ""
  exception : Option String := none
  messages : List String := []
  tree : Files.Tree
  /-- The file written, with its text. -/
  written : Option (Files.Path × String) := none
deriving Inhabited

/-- The first path given that is not an existing file; the empty path names nothing. An output
path only must not be a directory, and the empty one is not checked here. -/
def checkPaths (tree : Files.Tree) (a : Arguments) : Option UsageError :=
  let existing (p : String) : Option UsageError :=
    if !tree.namesExisting p then some (.missingPath p)
    else if (tree.resolveExisting? p).any tree.isDir then some (.isDirectory p)
    else none
  let output (p : String) : Option UsageError :=
    if !p.isEmpty && tree.isDir (tree.resolve p) then some (.isDirectory p) else none
  if a.sources.isEmpty then some .missingSources
  else
    (a.sources.findSome? existing).orElse fun _ =>
      (a.configFile.bind existing).orElse fun _ => a.output.bind output

/-- The usage lines shown with a usage error. -/
def usageMessages (e : UsageError) : List String :=
  ["Usage: main [OPTIONS] SOURCES...", "Try 'main --help' for help.", "", "Error: " ++ e.message]

/-- Generates from arguments that were accepted. -/
def generate (tree : Files.Tree) (a : Arguments) : Outcome :=
  match configure Config.model tree a with
  | .error e =>
    if e.isConfigError then { exitCode := 1, tree, messages := ["Error: configuration: " ++ e.cause] }
    else { exitCode := 1, tree, exception := some e.cause }
  | .ok cfg =>
    let unencodable (members : List String) : Bool :=
      cfg.unencodable.any fun (k, _) => members.contains k
    if unencodable ["clang_args", "include_dirs"] then
      { exitCode := 1, tree, exception := some "UnicodeEncodeError" }
    else
    match Collection.walk Header.Frontend.clang tree cfg a.sources with
    | .error (.unreadable p) =>
      { exitCode := 1, tree, messages := ["Error: " ++ (Collection.Failure.unreadable p).message] }
    | .error f => { exitCode := 1, tree, exception := some f.kind, messages := [f.message] }
    | .ok (c, warnings) =>
      let code := Managed.source cfg c.aliases c.declarations
      let summary := toString c.aliases.size ++ " aliases, " ++
        toString c.declarations.structs.length ++ " structs, " ++
        toString c.declarations.functions.length ++ " functions"
      let written := Managed.writtenMembers cfg c.declarations ++
        (if cfg.output.isSome then ["output"] else [])
      if unencodable written then
        { exitCode := 1, tree, exception := some "UnicodeEncodeError", messages := warnings ++ [summary] }
      else
      match cfg.output with
      | none => { exitCode := 0, stdout := code, tree, messages := warnings ++ [summary] }
      | some o =>
        match tree.locate o with
        | .error e =>
          { exitCode := 1, tree, exception := some e.name, messages := warnings ++ [summary] }
        | .ok path =>
          match tree.write path code with
          | .ok t =>
            { exitCode := 0, tree := t, written := some (path, code),
              messages := warnings ++ [summary, "Bindings written to " ++ o] }
          | .error e =>
            { exitCode := 1, tree, exception := some e.name, messages := warnings ++ [summary] }

/-- Runs the command with its arguments over a tree of files. -/
def run (tree : Files.Tree) (args : List String) : Outcome :=
  match Arguments.parse args with
  | .error e => { exitCode := 2, tree, messages := usageMessages e }
  | .ok a =>
    if a.help then { exitCode := 0, stdout := helpText, tree }
    else
      match checkPaths tree a with
      | some e => { exitCode := 2, tree, messages := usageMessages e }
      | none => generate tree a

end NativeBindings.Command
