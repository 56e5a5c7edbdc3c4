/-!
# Declarations

What the walk over C headers collects: structs and unions with their fields, and functions
with their return and parameter types, each type already named in C#. A location identifies a
declaration (file, line and column); it is never used to order anything.
-/

namespace NativeBindings

/-- Where a declaration was found; `file` is absent for declarations without a file. -/
structure Location where
  file : Option String := none
  line : Int
  column : Int
deriving DecidableEq, Inhabited, Repr

/-- The text of a location in comments of the generated code: `line:L, column:C`. -/
def Location.render (l : Location) : String :=
  "line:" ++ toString l.line ++ ", column:" ++ toString l.column

/-- A struct field or function parameter, with its C# type. -/
structure Variable where
  name : String
  type : String
deriving DecidableEq, Inhabited, Repr

/-- A struct or union. -/
structure Struct where
  name : String
  location : Location
  fields : List Variable := []
  isUnion : Bool := false
  isDefinition : Bool := true
deriving DecidableEq, Inhabited, Repr

/-- The same struct with one more field at the end. -/
def Struct.addField (s : Struct) (name type : String) : Struct :=
  { s with fields := s.fields ++ [⟨name, type⟩] }

/-- A function. -/
structure Function where
  name : String
  location : Location
  returns : String
  parameters : List Variable := []
deriving DecidableEq, Inhabited, Repr

/-- A collected declaration. -/
inductive Declaration where
  | struct (s : Struct)
  | function (f : Function)
deriving DecidableEq, Inhabited, Repr

namespace Declaration

/-- The struct, if the declaration is one. -/
def struct? : Declaration → Option Struct
  | .struct s => some s
  | .function _ => none

/-- The function, if the declaration is one. -/
def function? : Declaration → Option Function
  | .struct _ => none
  | .function f => some f

/-- Whether the declaration is a struct of the given name. -/
def isStructNamed (name : String) : Declaration → Bool
  | .struct s => s.name == name
  | .function _ => false

end Declaration

end NativeBindings
