import NativeBindings.Declaration.Basic

/-!
# The declaration collector

Structs and functions in the order they were found. Structs are unique by location: a struct
whose location was already collected is refused. A struct that is accepted replaces every
collected struct of its name, wherever it stood, and goes to the end (a definition that follows
a forward declaration); functions are kept as found, never moved or removed.

Beside the list the collector keeps `locations`, the set of the collected structs' locations,
so that a location can be looked up without a scan. `addStruct` keeps it equal to the set of
locations of the structs in the list: it drops the locations of the structs it removes and adds
the new one.
-/

namespace NativeBindings

/-- Collected declarations, and the locations of the collected structs. -/
structure Collector where
  declarations : List Declaration := []
  locations : List Location := []
deriving Inhabited, Repr

namespace Collector

/-- The collector of nothing. -/
def empty : Collector := {}

/-- The collected structs, in order. -/
def structs (c : Collector) : List Struct := c.declarations.filterMap Declaration.struct?

/-- The collected functions, in order. -/
def functions (c : Collector) : List Function := c.declarations.filterMap Declaration.function?

/-- The number of declarations. -/
def size (c : Collector) : Nat := c.declarations.length

/-- Whether a struct was collected at a location. -/
def hasStructAt (c : Collector) (l : Location) : Bool := c.locations.contains l

/-- The first collected struct of a name. -/
def getStruct? (c : Collector) (name : String) : Option Struct :=
  c.structs.find? (fun s => s.name == name)

/-- Adds a struct: refused (`false`, nothing changed) when its location is collected;
otherwise the structs of its name are removed with their locations and it is appended. -/
def addStruct (c : Collector) (s : Struct) : Bool × Collector :=
  if c.hasStructAt s.location then (false, c)
  else
    let removed := c.structs.filter (fun d => d.name == s.name)
    let kept := c.declarations.filter (fun d => !d.isStructNamed s.name)
    let locations := c.locations.filter (fun l => !(removed.any (fun d => d.location == l)))
    (true, ⟨kept ++ [.struct s], locations ++ [s.location]⟩)

/-- Appends a function. -/
def addFunction (c : Collector) (f : Function) : Collector :=
  { c with declarations := c.declarations ++ [.function f] }

/-- Changes the first struct that satisfies `p`. -/
def updateFirst (p : Struct → Bool) (g : Struct → Struct) : List Declaration → List Declaration
  | [] => []
  | .struct s :: ds => if p s then .struct (g s) :: ds else .struct s :: updateFirst p g ds
  | .function f :: ds => .function f :: updateFirst p g ds

/-- Adds a field to the first struct of a name; `none` when there is no such struct. -/
def addField (c : Collector) (structName name type : String) : Option Collector :=
  match c.getStruct? structName with
  | none => none
  | some _ =>
    let ds := updateFirst (fun s => s.name == structName) (fun s => s.addField name type) c.declarations
    some { c with declarations := ds }

/-- Adds a field to the struct collected at a location, if there is one. -/
def addFieldAt (c : Collector) (l : Location) (name type : String) : Collector :=
  let ds := updateFirst (fun s => s.location == l) (fun s => s.addField name type) c.declarations
  { c with declarations := ds }

end Collector

end NativeBindings
