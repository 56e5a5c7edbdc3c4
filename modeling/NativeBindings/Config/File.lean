import NativeBindings.Config.Decode
import NativeBindings.Json.Read
import NativeBindings.Files.Tree

/-!
# Configuration files

A configuration file is a JSON object. Checking it as a configuration, and dumping a
configuration's members, is the work of a library of data models (`Model`): the functions here
take it as a parameter, and `Config.model` is the one the command runs with (`Config.validate`,
and `toJson` with absent values as `null`). `load` reads a file; it fails when the file cannot
be read, is not JSON, or does not describe a configuration. `find` looks for the project file
`pinvokegen.json` in a directory and then in each of its ancestors, up to but not including the
root directory, and loads the first one it finds.
-/

namespace NativeBindings.Config

/-- Why a configuration could not be loaded. -/
inductive LoadError where
  /-- The file could not be read. -/
  | unreadable (e : Files.FileError)
  /-- The text is not JSON; the message says where. -/
  | notJson (message : String)
  /-- The JSON does not describe a configuration. -/
  | invalid (issues : List Json.Issue)
  /-- A whole number in the text has too many digits to convert, with the number of its
  digits. Unlike the failures above this one is not a configuration error. -/
  | tooManyDigits (digits : Nat)
  /-- The arrays and objects of the text nest too deep to read; not a configuration error
  either. -/
  | tooDeep
deriving Repr, Inhabited

/-- The name of the kind of a load failure. -/
def LoadError.cause : LoadError → String
  | .unreadable e => e.name
  | .notJson _ => "JSONDecodeError"
  | .invalid _ => "ValidationError"
  | .tooManyDigits _ => "ValueError"
  | .tooDeep => "RecursionError"

/-- Whether a load failure is a configuration error, which names the failure as its cause;
the others stand as they are. -/
def LoadError.isConfigError : LoadError → Bool
  | .tooManyDigits _ | .tooDeep => false
  | _ => true

/-- The message of a failure that is no configuration error, when it has one. -/
def LoadError.message? : LoadError → Option String
  | .tooManyDigits n =>
    some ("Exceeds the limit (" ++ toString Json.digitLimit ++ " digits) for integer string " ++
      "conversion: value has " ++ toString n ++ " digits; use sys.set_int_max_str_digits() to " ++
      "increase the limit")
  | _ => none

/-- What a library of data models does for configurations: `check` reads a JSON value as a
configuration, or gives the issues it finds, and `dump` gives a configuration's members. -/
structure Model where
  check : Json.Value → Json.Validated Config
  dump : Config → Json.Value

/-- The name of the project configuration file. -/
def projectFileName : String := "pinvokegen.json"

/-- Reads a configuration from a JSON text. -/
def ofText (M : Model) (text : String) : Except LoadError Config :=
  match Json.parse text with
  | .error (.invalid e) => .error (.notJson (e.render text.toList))
  | .error (.tooManyDigits n) => .error (.tooManyDigits n)
  | .error .tooDeep => .error .tooDeep
  | .ok v =>
    match M.check v with
    | .ok c => .ok c
    | .issues is => .error (.invalid is)

/-- Loads a configuration file. -/
def load (M : Model) (tree : Files.Tree) (p : Files.Path) : Except LoadError Config :=
  match tree.readText p with
  | .error e => .error (.unreadable e)
  | .ok text => ofText M text

/-- Loads a configuration file named by a path text, which the system resolves component by
component (`Files.Tree.locate`). -/
def loadText (M : Model) (tree : Files.Tree) (text : String) : Except LoadError Config :=
  match tree.locate text with
  | .ok p => load M tree p
  | .error e => .error (.unreadable e)

/-- A configuration as JSON, members in order; absent values are `null`, or left out when
`dropAbsent` holds. -/
def toJson (c : Config) (dropAbsent : Bool) : Json.Value :=
  let opt (k : String) : Option String → List (String × Json.Value)
    | some s => [(k, .str s [])]
    | none => if dropAbsent then [] else [(k, .null)]
  .obj (opt "output" c.output ++ opt "library_name" c.libraryName ++
    [("class_name", .str c.className []),
     ("clang_args", .arr (c.clangArgs.map (.str · []))),
     ("include_dirs", .arr (c.includeDirs.map (.str · []))),
     ("follow_includes", .bool c.followIncludes),
     ("follow_system_includes", .bool c.followSystemIncludes)])

/-- Why a configuration cannot be written out as JSON: a text of it has no UTF-8 form. The
first such member in member order is named by its reason. -/
def dumpError? (c : Config) : Option String :=
  c.unencodable.head?.map fun (_, reason) =>
    "Error serializing to JSON: UnicodeEncodeError: " ++ reason

/-- The model that the command runs with: configurations checked by `validate`, and dumped with
every member, an absent value as `null`. -/
def model : Model where
  check := validate
  dump c := toJson c false

/-- Looks for the project file from a directory upwards. -/
def findFrom (M : Model) (tree : Files.Tree) : Nat → Files.Path → Except LoadError (Option Config)
  | 0, _ => .ok none
  | fuel + 1, dir =>
    if dir == dir.parent then .ok none
    else
      let file := dir.child projectFileName
      if tree.pathExists file then (load M tree file).map some
      else findFrom M tree fuel dir.parent

/-- The configuration of the nearest project file at or above a directory, if any. -/
def find (M : Model) (tree : Files.Tree) (start : Files.Path) : Except LoadError (Option Config) :=
  findFrom M tree (start.parts.length + 1) start

end NativeBindings.Config
