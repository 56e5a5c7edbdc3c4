import NativeBindings.Command.Arguments
import NativeBindings.Config.File

/-!
# The configuration of an invocation

A run's configuration starts from a source: the file given with `--config`, else the project file
found from the working directory upwards, else the defaults. The options library then reports each
option that sets a member, under the member's name: nothing for an option that was not given, the
empty tuple for a repeatable option given no time, and otherwise its text, its path (as a path
value holds it, in normal text), its texts in order, or its flag (`false` for a `--no-…` switch).
The options reported as given are the updates, a list member's update holding the source's
entries before the option's values. The source's members, as the library of data models dumps
them, merged with the updates, the update of a key winning, are checked again by that library.
The library is a parameter (`Config.Model`).

A text that has no UTF-8 form stays in the member that holds it, so the source's reasons are kept
for the members whose source texts the merge keeps: those that no update replaced, and the list
members.
-/

namespace NativeBindings.Json

/-- An object with further members that override those of the same key, the way a dictionary
merge does: a member is looked up as the last one of its key. Other values stay as they are. -/
def Value.override : Value → List (String × Value) → Value
  | .obj ms, extra => .obj (ms ++ extra)
  | v, _ => v

end NativeBindings.Json

namespace NativeBindings.Command

open Json

/-- The configuration that the options start from: the file given, else the project file found
from the working directory upwards, else the defaults. -/
def source (M : Config.Model) (tree : Files.Tree) (configFile : Option String) :
    Except Config.LoadError Config :=
  match configFile with
  | some f => Config.loadText M tree f
  | none => (Config.find M tree tree.cwd).map (·.getD {})

/-- A text, or `null` for none. -/
def textValue : Option String → Value
  | some s => .str s []
  | none => .null

/-- A flag, or `null` for none. -/
def flagValue : Option Bool → Value
  | some b => .bool b
  | none => .null

/-- A tuple of texts. -/
def textsValue (ss : List String) : Value := .arr (ss.map (.str · []))

/-- The options that set configuration members, by member name in the order the command declares
them, each with the value the options library reports for it. -/
def Arguments.reported (a : Arguments) : List (String × Value) :=
  [("output", textValue (a.output.map Files.normalizeText)),
   ("library_name", textValue a.libraryName),
   ("class_name", textValue a.className),
   ("clang_args", textsValue a.clangArgs),
   ("include_dirs", textsValue a.includeDirs),
   ("follow_includes", flagValue a.followIncludes),
   ("follow_system_includes", flagValue a.followSystemIncludes)]

/-- Whether an option counts as given: what is reported for it is neither nothing nor the empty
tuple. A `false` flag and an empty text are given. -/
def isGiven : Value → Bool
  | .null => false
  | .arr [] => false
  | _ => true

/-- A list with the source's entries put before its items. -/
def prependEntries (entries : List String) : Value → Value
  | .arr items => .arr (entries.map (.str · []) ++ items)
  | v => v

/-- The value of the update of a member: a list member's holds the source's entries first. -/
def withSourceEntries (base : Config) (key : String) (v : Value) : Value :=
  if key == "clang_args" then prependEntries base.clangArgs v
  else if key == "include_dirs" then prependEntries base.includeDirs v
  else v

/-- The members that the options given replace, with the values the merge gives them. -/
def updates (base : Config) (a : Arguments) : List (String × Value) :=
  (a.reported.filter (isGiven ·.2)).map fun u => (u.1, withSourceEntries base u.1 u.2)

/-- Whether the merged member `key` still holds the source's texts: no update replaced it, or it is
a list member, whose update starts with the source's entries. -/
def keepsSource (ups : List (String × Value)) (key : String) : Bool :=
  key == "clang_args" || key == "include_dirs" || (Value.member? ups key).isNone

/-- The configuration of an invocation: the source's members, as the model dumps them, overridden
by the updates and checked again by the model. Were the merged members not to pass the check, its
issues would be the failure. -/
def configure (M : Config.Model) (tree : Files.Tree) (a : Arguments) :
    Except Config.LoadError Config := do
  let base ← source M tree a.configFile
  let ups := updates base a
  match M.check ((M.dump base).override ups) with
  | .ok c => return { c with unencodable := base.unencodable.filter (keepsSource ups ·.1) }
  | .issues is => throw (.invalid is)

end NativeBindings.Command
