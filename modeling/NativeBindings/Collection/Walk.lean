import NativeBindings.Collection.Basic
import NativeBindings.Header.Parsed
import NativeBindings.Config.Basic
import NativeBindings.Files.Tree

/-!
# Walking headers

`walk` reads each source header as a unit of its own and walks its declarations in the order of
their places, each before what it holds:

* a typedef declares an alias from its name to the C# name of its type, unless the name is
  taken or names itself; a typedef of a record without a name instead gives the record its name,
  and a later typedef of the same record becomes an alias of that first name;
* a struct or union is collected with the fields it holds; a record without a name waits for
  the typedef that names it, and one nested in another record is not supported;
* a function is collected with its parameters, an unnamed one called `argN` by its position;
* an `#include` line walks the included header in turn, once per run, when includes are
  followed and the header lies under a directory of the run.

What a unit holds from other files is left to the walk of those files. The errors that reading
a unit reports are logged as warnings first. The front end that reads the headers is a
parameter of the walk (`Header.Frontend`).
-/

namespace NativeBindings.Collection

open Header

/-- The place of a declaration as a location. -/
def locationOf (p : Position) : Location :=
  { file := some p.file, line := p.line, column := p.column }

/-- The record that a tag was first declared in, when that first declaration defines it: a tag
only used there belongs to the whole unit. -/
def enclosing (u : Parsed) (t : Nat) : Option Nat :=
  let ds := u.decls.toList.zipIdx
  match ds.find? (fun (d, _) => match d with | .tag t' .. => t' == t | _ => false) with
  | some (.tag _ _ _ true _, i) =>
    ds.findSome? fun (d, _) => match d with
      | .tag j _ _ _ ms => if ms.contains i then some j else none
      | _ => none
  | _ => none

/-- Whether a record around another one, or one around that, is a record without a name that
a typedef names or that stands alone, such as an anonymous member: the names of what C++
declares inside such a record are marked as those of unnamed records. -/
def markedAround (u : Parsed) : Nat → Nat → Bool
  | 0, _ => false
  | fuel + 1, t =>
    match enclosing u t with
    | none => false
    | some r =>
      let d := u.entities.tag r
      (d.name.isNone && (d.typedefName.isSome || d.freeStanding || d.anonymousMember)) ||
        markedAround u fuel r

/-- Whether a record counts as having no name: it has no identifier. In C a record declared
inside another one belongs to the unit, so the one around it does not matter; in C++ it
belongs to that record, and one without a name around it may mark it (`markedAround`). -/
def unnameable (u : Parsed) (t : Nat) : Bool :=
  (u.entities.tag t).name.isNone || (u.entities.cxx && markedAround u u.entities.tags.size t)

/-- The spelling of a record's declaration: its name, or the text of its type when it has none. -/
def tagSpelling (u : Parsed) (t : Nat) : String :=
  match (u.entities.tag t).name with
  | some n => n
  | none => u.entities.tagText t false

/-- The record or enum that a type names, through `struct`-style names. -/
def declaredTag (e : Entities) : Nat → Ty → Option Nat
  | 0, _ => none
  | fuel + 1, t =>
    match t.written with
    | .elaborated _ _ n _ => declaredTag e fuel n
    | .tag _ i => some i
    | _ => none

/-- The struct or union that a type names, if it names one. -/
def declaredRecord (e : Entities) (t : Ty) : Option Nat :=
  (declaredTag e 4 t).filter fun i => (e.tag i).kind != .enum

/-- The type that pointers and arrays are built from. -/
def baseType (e : Entities) : Nat → Ty → Except UnknownKind Ty
  | 0, t => .ok t
  | fuel + 1, t => do
    let t := t.written
    match ← e.kind t with
    | .pointer =>
      match t with
      | .pointer _ p => baseType e fuel p
      | _ => pure t
    | .constantArray _ | .otherArray =>
      match t with
      | .array _ el .. => baseType e fuel el
      | _ => pure t
    | _ => pure t

/-- Starts a struct or union; gives the builder that its fields go to. -/
def visitAggregate (u : Parsed) (t : Nat) (pos : Position) (isDefinition : Bool)
    (parent : Option Builder) : WalkM Builder := do
  let loc := locationOf pos
  let name := tagSpelling u t
  let s : Struct := { name, location := loc, isUnion := (u.entities.tag t).kind == .union, isDefinition }
  if unnameable u t then
    match parent with
    | some p =>
      warn ("Anonymous aggregate nested in " ++ p.name ++ " (" ++ loc.render ++ ") is not supported")
      return ⟨name, .detached⟩
    | none =>
      let w ← get
      if w.unnamed.any (·.1 == loc) || w.collected.declarations.hasStructAt loc then
        return ⟨name, .detached⟩
      set { w with unnamed := w.unnamed ++ [(loc, { s with name := "" })] }
      return ⟨"", .pending loc⟩
  if !isDefinition then
    match (← get).collected.declarations.getStruct? name with
    | some existing => if existing.isDefinition then return ⟨name, .detached⟩
    | none => pure ()
  if ← addStruct s then return ⟨name, .collected loc⟩
  else return ⟨name, .detached⟩

/-- Adds a field to the record being walked, unless its type is a record without a name. -/
def visitField (u : Parsed) (agg : Option Builder) (name : String) (t : Ty) : WalkM Unit := do
  match agg with
  | none => pure ()
  | some b =>
    let base ← match baseType u.entities (Entities.depthLimit) t with
      | .ok x => pure x
      | .error k => throw (.unknownKind k)
    match declaredRecord u.entities base with
    | some r =>
      if unnameable u r then
        warn ("Skipping field " ++ (if name.isEmpty then "<unnamed>" else name) ++ " of " ++ b.name ++
          ": anonymous aggregate types are not supported")
        return
    | none => pure ()
    b.addField name (← nameType u.entities .plain t)

/-- Gives a record without a name the name of the typedef that declares it; a later typedef of
the same record becomes an alias of the first name. -/
def nameUnnamed (loc : Location) (name : String) : WalkM Unit := do
  let w ← get
  match w.unnamed.find? (·.1 == loc) with
  | some (_, s) =>
    set { w with unnamed := w.unnamed.filter (fun (p : Location × Struct) => p.1 != loc),
                 names := (w.names.filter (fun (p : Location × String) => p.1 != loc)) ++ [(loc, name)] }
    let _ ← addStruct { s with name }
  | none =>
    match w.names.find? (·.1 == loc) with
    | some (_, first) => if first != name then addAlias name first
    | none => pure ()

/-- Declares the alias of a typedef. -/
def visitTypedef (u : Parsed) (j : Nat) : WalkM Unit := do
  let e := u.entities
  let declared ← nameType e .plain (.typedef {} j)
  let underlying := (e.typedef j).underlying.written
  match declaredRecord e underlying with
  | some r =>
    if unnameable u r then
      nameUnnamed (locationOf (e.tag r).pos) declared
      return
  | none => pure ()
  let aliases := (← get).collected.aliases
  if aliases.contains declared then return
  let actual ← nameType e (.aliases aliases) underlying
  if actual == declared then return
  addAlias declared actual

/-- Collects a function with its parameters and return type. -/
def visitFunction (u : Parsed) (name : String) (pos : Position) (t : Ty) (params : List Nat) :
    WalkM Unit := do
  let e := u.entities
  let mut parameters : Array Variable := #[]
  for (p, i) in params.zipIdx do
    let d := u.decl p
    let pname := if d.name.isEmpty then "arg" ++ toString i else d.name
    parameters := parameters.push ⟨pname, ← nameType e .plain d.type⟩
  let result := match e.bare t with
    | .function r .. => r
    | _ => .invalid
  let returns ← nameType e .plain result
  modifyDeclarations fun c =>
    c.addFunction { name, location := locationOf pos, returns, parameters := parameters.toList }

/-- Walks a declaration of a unit and what it holds, with the record being walked. -/
def walkDecl (u : Parsed) (owner : String) : Nat → Option Builder → Nat → WalkM Unit
  | 0, _, _ => pure ()
  | fuel + 1, agg, i => do
    let d := u.decl i
    if d.pos.file != owner then return
    let agg ← match d with
      | .typedef j _ _ => do visitTypedef u j; pure agg
      | .tag t pos _ isDef _ =>
        -- a C++ class is no struct or union, but what it holds is walked
        let kind := (u.entities.tag t).kind
        if kind == .enum || kind == .classTag then pure agg
        else some <$> visitAggregate u t pos isDef agg
      | .function name pos t params _ => do visitFunction u name pos t params; pure agg
      | _ => pure agg
    match d with
    | .field name _ t => visitField u agg name t
    | _ =>
      for c in u.inside d do
        walkDecl u owner fuel agg c

/-- What a walk works with: the front end, the files, and the configuration of the run. -/
structure Setup where
  frontend : Frontend
  tree : Files.Tree
  config : Config

/-- The unit that the front end reads a header as, with the compiler arguments of the run. -/
def Setup.unit? (s : Setup) (path : Files.Path) : Option Parsed :=
  s.frontend.read s.tree s.config.parseArgs path

/-- Reads a header as a unit, logging the errors of reading it. -/
def readHeader (s : Setup) (path : Files.Path) : WalkM Parsed := do
  match s.unit? path with
  | none => throw (.unreadable path.render)
  | some u =>
    for err in u.errors do warn err
    return u

/-- Walks a header and the headers it includes, `fuel` levels deep. A header walked before is
not walked again. -/
def walkFile (s : Setup) : Nat → Files.Path → WalkM Unit
  | 0, _ => pure ()
  | fuel + 1, path => do
    if (← get).visited.contains path then return
    modify fun w => { w with visited := w.visited ++ [path] }
    let u ← readHeader s path
    let owner := path.render
    for item in u.topLevel owner do
      match item with
      | .decl i => walkDecl u owner (u.decls.size + 1) none i
      | .inclusion inc =>
        if s.config.followIncludes then
          match inc.found with
          -- the file of an include that was not found is null, and taking it as a file fails
          -- before the missing file could be reported
          | none => throw .missingInclude
          | some name =>
            let included := s.tree.resolve name
            let roots := (← get).roots
            if s.config.followSystemIncludes || roots.any (included.isUnder ·) then
              walkFile s fuel included

/-- Walks the source headers in order, each read by the front end `fe`, and gives what was
collected with the warnings logged. The directories of the run are the include directories and
those of the sources. -/
def walk (fe : Frontend) (tree : Files.Tree) (config : Config) (sources : List String) :
    Except Failure (Collected × List String) := do
  let paths := sources.map tree.resolve
  let roots := paths.foldl (fun rs p => if rs.contains p.parent then rs else rs ++ [p.parent])
    (config.includeDirs.map tree.resolve)
  let run : WalkM Unit := do
    for p in paths do
      walkFile ⟨fe, tree, config⟩ (tree.files.length + paths.length + 1) p
  let ((), w) ← run.run { roots }
  return (w.collected, w.warnings.toList)

end NativeBindings.Collection
