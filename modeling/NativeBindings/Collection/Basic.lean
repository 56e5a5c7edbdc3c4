import NativeBindings.Declaration.Collector
import NativeBindings.Header.Describe
import NativeBindings.Managed.TypeName
import NativeBindings.Files.Path

/-!
# What a walk over headers collects

A walk over C headers collects the aliases that typedefs declare and the records and
functions that the C# side binds (`Collected`), and logs warnings on the way. It stops with a
`Failure` when a header cannot be read, when an `#include` names a file that is not there
while includes are followed, or when a type has a kind that cannot be reported.
-/

namespace NativeBindings.Collection

/-- The aliases and declarations of a walk. -/
structure Collected where
  aliases : AliasTable := {}
  declarations : Collector := {}
deriving Inhabited

/-- Why a walk stops. -/
inductive Failure where
  /-- A header that cannot be read, with its path. -/
  | unreadable (path : String)
  /-- An `#include` of a file that the front end did not find, while includes are followed:
  the front end's file for it is null, and taking that as a file fails an assertion, with no
  message. -/
  | missingInclude
  /-- A type whose kind cannot be reported. -/
  | unknownKind (k : Header.UnknownKind)
  /-- A descriptor that cannot be named in C#. -/
  | unnamed (e : Managed.ResolveError)
deriving Inhabited

namespace Failure

/-- The name of the kind of failure. -/
def kind : Failure → String
  | .unreadable _ => "ParseError"
  | .missingInclude => "AssertionError"
  | .unknownKind _ => "ValueError"
  | .unnamed _ => "AttributeError"

/-- The text of a failure. -/
def message : Failure → String
  | .unreadable p => "Failed to parse " ++ p ++ ": Error parsing translation unit."
  | .missingInclude => ""
  | .unknownKind k => k.message
  | .unnamed e => e.message

end Failure

/-- Where the fields of the record being walked go: to a collected struct (found by its
location), to a struct waiting for a typedef to name it, or nowhere. -/
inductive Target where
  | collected (l : Location)
  | pending (l : Location)
  | detached
deriving Inhabited, DecidableEq

/-- The record being walked: its name, as warnings show it, and where its fields go. -/
structure Builder where
  name : String
  target : Target
deriving Inhabited

/-- The state of a walk. -/
structure Walker where
  collected : Collected := {}
  /-- The files walked so far. -/
  visited : List Files.Path := []
  /-- The directories whose headers are followed. -/
  roots : List Files.Path := []
  /-- Records without a name, waiting for the typedef that names them, by location. -/
  unnamed : List (Location × Struct) := []
  /-- The name given to each record that a typedef named, by location. -/
  names : List (Location × String) := []
  /-- The warnings, in the order they were logged. -/
  warnings : Array String := #[]
deriving Inhabited

/-- A step of a walk. -/
abbrev WalkM := StateT Walker (Except Failure)

/-- Logs a warning. -/
def warn (msg : String) : WalkM Unit :=
  modify fun w => { w with warnings := w.warnings.push msg }

/-- Changes the collected declarations. -/
def modifyDeclarations (f : Collector → Collector) : WalkM Unit :=
  modify fun w => { w with collected := { w.collected with declarations := f w.collected.declarations } }

/-- Adds an alias; the first alias of a name stays. -/
def addAlias (key actual : String) : WalkM Unit :=
  modify fun w =>
    { w with collected := { w.collected with aliases := (w.collected.aliases.insert key actual).2 } }

/-- Adds a struct to the declarations; whether it was added. -/
def addStruct (s : Struct) : WalkM Bool := do
  let w ← get
  let (added, c) := w.collected.declarations.addStruct s
  set { w with collected := { w.collected with declarations := c } }
  return added

/-- Adds a field to where a builder's fields go. -/
def Builder.addField (b : Builder) (name type : String) : WalkM Unit :=
  match b.target with
  | .collected l => modifyDeclarations fun c => c.addFieldAt l name type
  | .pending l =>
    modify fun w =>
      { w with unnamed := w.unnamed.map fun (k, s) => if k == l then (k, s.addField name type) else (k, s) }
  | .detached => pure ()

/-- The C# name of a type of a unit, logging the notices that naming it gives. -/
def nameType (e : Header.Entities) (mode : Managed.Mode) (t : Header.Ty) : WalkM String := do
  let c ← match e.describe t with
    | .ok c => pure c
    | .error k => throw (.unknownKind k)
  let r ← match Managed.resolve mode true c with
    | .ok r => pure r
    | .error err => throw (.unnamed err)
  for n in r.notices do warn n
  return r.text

end NativeBindings.Collection
