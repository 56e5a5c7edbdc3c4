/-!
# C type descriptors

A descriptor records one C type as a category, a spelling with the qualifiers taken out, a
`const` flag and the children that its category uses: the element of an array (and the length
of a constant one), the pointee of a pointer, the result and the parameter types of a function.
A descriptor may lack a child that its category needs, or carry one that it does not; naming a
type in C# (`Managed.TypeName`) walks exactly the children that the category uses.

The constructors (`CType.pointer`, `CType.constantArray`, …) compute the spelling from the
children, in the style of C's own type names.
-/

namespace NativeBindings

/-- The kinds of C type that a descriptor distinguishes. -/
inductive Category where
  | primitive
  | constantArray
  | incompleteArray
  | pointer
  | function
  | record
  | typedef
  | other
deriving DecidableEq, Repr, Inhabited

namespace Category

/-- The name of a category as it appears in notices and in serialised descriptors. -/
def name : Category → String
  | primitive => "primitive"
  | constantArray => "constant_array"
  | incompleteArray => "incomplete_array"
  | pointer => "pointer"
  | function => "function"
  | record => "record"
  | typedef => "typedef"
  | other => "other"

/-- Every category, in the order of `name`'s cases. -/
def all : List Category :=
  [primitive, constantArray, incompleteArray, pointer, function, record, typedef, other]

/-- The category with a given name. -/
def ofName? (s : String) : Option Category :=
  all.find? (fun c => c.name == s)

/-- Records and typedefs are referred to by name in C#. -/
def isNamed : Category → Bool
  | record => true
  | typedef => true
  | _ => false

end Category

/-- A C type: category, unqualified spelling, `const` flag and structural children. -/
structure CType where
  category : Category
  spelling : String
  isConst : Bool := false
  element : Option CType := none
  size : Option Int := none
  pointee : Option CType := none
  result : Option CType := none
  arguments : Option (List CType) := none
deriving Inhabited, Repr

namespace CType

/-- The type's name with its qualifier: `const T` when it is const. -/
def render (t : CType) : String :=
  if t.isConst then "const " ++ t.spelling else t.spelling

/-- A function type with a parameter list; a pointer to one is a callback. -/
def isFunction (t : CType) : Bool :=
  t.category == .function && t.arguments.isSome

/-- The same type without its `const` flag. -/
def unqualified (t : CType) : CType := { t with isConst := false }

/-- A primitive type of a given spelling. -/
def primitive (spelling : String) (isConst : Bool := false) : CType :=
  { category := .primitive, spelling, isConst }

/-- A struct or union type of a given spelling. -/
def record (spelling : String) (isConst : Bool := false) : CType :=
  { category := .record, spelling, isConst }

/-- A typedef name. -/
def typedef (spelling : String) (isConst : Bool := false) : CType :=
  { category := .typedef, spelling, isConst }

/-- A pointer, spelled `T *`. -/
def pointer (pointee : CType) (isConst : Bool := false) : CType :=
  { category := .pointer, spelling := pointee.render ++ " *", isConst, pointee := some pointee }

/-- An array of known length, spelled `T[n]`. -/
def constantArray (element : CType) (size : Int) : CType :=
  { category := .constantArray, spelling := element.render ++ "[" ++ toString size ++ "]",
    element := some element, size := some size }

/-- An array of unknown length, spelled `T[]`. -/
def incompleteArray (element : CType) : CType :=
  { category := .incompleteArray, spelling := element.render ++ "[]", element := some element }

/-- The parameter list of a function spelling: the parameters joined by commas, or `void`. -/
def parameterList (arguments : List CType) : String :=
  match arguments with
  | [] => "void"
  | _ => ", ".intercalate (arguments.map render)

/-- A function type, spelled `R (A, B)`. -/
def function (result : CType) (arguments : List CType) : CType :=
  { category := .function, spelling := result.render ++ " (" ++ parameterList arguments ++ ")",
    result := some result, arguments := some arguments }

@[simp] theorem render_unqualified (t : CType) : t.unqualified.render = t.spelling := by
  simp [render, unqualified]

@[simp] theorem unqualified_category (t : CType) : t.unqualified.category = t.category := rfl

@[simp] theorem unqualified_isConst (t : CType) : t.unqualified.isConst = false := rfl

end CType

end NativeBindings
