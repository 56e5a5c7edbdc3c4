import NativeBindings.Header.Type
import NativeBindings.Header.Token

/-!
# Records, enums and typedefs

The tables that types refer to by number. A `TagDef` is one record or enum type with what is
known of it at the end of the unit: its name, or the typedef name it got when it has none, the
place of its definition (or of its first declaration while it has none), its members, and for
an enum the integer type it stands for. A `TypedefDef` is one typedef name and the type it
names.

`Entities.canonical` removes all sugar from a type: typedef names and `struct`-style names
are replaced by what they name, parameters by the pointers they stand for, and qualifiers
move from an array to its elements. Two types are the same type when their canonical forms
are equal.
-/

namespace NativeBindings.Header

/-- A member of a record, with what decides its place: its name (empty for an anonymous
member), its type, the width of a bit-field, the alignment in bytes that attributes ask for
(`0` for none), and whether it is packed. -/
structure Member where
  name : String
  type : Ty
  bits : Option Nat := none
  aligned : Nat := 0
  packed : Bool := false
deriving Inhabited, Repr

/-- A record or enum type. -/
structure TagDef where
  kind : TagKind
  /-- The identifier, if it has one. -/
  name : Option String
  /-- The place of its definition, or of its first declaration while it has none. -/
  pos : Position
  /-- It was declared as an anonymous member of a record. -/
  anonymousMember : Bool := false
  /-- Its definition makes up a whole declaration, with no declarator after it. -/
  freeStanding : Bool := false
  /-- The typedef name that names it, when it has no identifier. -/
  typedefName : Option String := none
  /-- Its definition has been read. -/
  complete : Bool := false
  /-- Its definition is being read. -/
  beingDefined : Bool := false
  /-- The members of a record, in order. -/
  members : List Member := []
  /-- The integer type of an enum. -/
  enumType : Option Ty := none
  /-- The underlying type of an enum was written (`enum E : T`). -/
  fixed : Bool := false
  packed : Bool := false
  /-- The alignment in bytes that attributes of the record ask for; `0` for none. -/
  aligned : Nat := 0
  /-- The largest alignment of a member, in bytes, that a `#pragma pack` in force at the
  definition allows; `0` for no limit. -/
  maxFieldAlign : Nat := 0
  /-- Its bit-fields are laid out as Microsoft's compiler does, as `#pragma ms_struct` or the
  `ms_struct` attribute ask. -/
  msStruct : Bool := false
  invalid : Bool := false
  /-- The number of the declaration that defines it. -/
  definition : Option Nat := none
  /-- The scopes it is declared in, as C++ writes them before its name (`N::` for a record of
  the namespace `N`); empty in C. -/
  scope : String := ""
  /-- An enum whose enumerators stay in its own scope (`enum class`). -/
  isScoped : Bool := false
deriving Inhabited, Repr

/-- A typedef name and the type it names; builtin typedefs have no place. -/
structure TypedefDef where
  name : String
  underlying : Ty
  pos : Option Position
  /-- The alignment in bytes that an attribute gives the name, over that of its type; `0` for
  none. -/
  aligned : Nat := 0
  /-- The scopes it is declared in, as C++ writes them before its name. -/
  scope : String := ""
deriving Inhabited, Repr

/-- The records, enums and typedefs of a unit, by number. -/
structure Entities where
  tags : Array TagDef := #[]
  /-- What the target decides about the builtin types. -/
  model : TypeModel := {}
  typedefs : Array TypedefDef := #[]
  /-- The unit is read as C23. -/
  c23 : Bool := false
  /-- The unit is read as C++. -/
  cxx : Bool := false
  /-- The `#line` directives of the unit, in order. -/
  lineMarks : List LineMark := []
deriving Inhabited

namespace Entities

/-- The tag with a number. -/
def tag (e : Entities) (i : Nat) : TagDef := e.tags.getD i default

/-- The typedef with a number. -/
def typedef (e : Entities) (i : Nat) : TypedefDef := e.typedefs.getD i default

/-- How deep canonical forms are computed; deeper parts stay as they are. -/
def depthLimit : Nat := 10000

/-- Adds qualifiers to a canonical type; on an array they go to the elements. -/
def qualify : Nat → Ty → Quals → Ty
  | 0, t, _ => t
  | fuel + 1, t, q =>
    if q.isEmpty then t
    else
      match t with
      | .array aq el s iq st => .array aq (qualify fuel el q) s iq st
      | t => t.addQuals q

/-- The canonical form of a type, computed to depth `fuel`. -/
def canonicalWith (e : Entities) : Nat → Ty → Ty
  | 0, t => t
  | fuel + 1, t =>
    match t with
    | .builtin q b => .builtin q b
    | .pointer q p => .pointer q (e.canonicalWith fuel p)
    | .array q el s _ _ => qualify fuel (.array {} (e.canonicalWith fuel el) s {} false) q
    | .function r ps v p =>
      .function (e.canonicalWith fuel r) (ps.map fun x => (e.canonicalWith fuel x).setQuals {}) v p
    | .tag q i => .tag q i
    | .elaborated q _ n _ => qualify fuel (e.canonicalWith fuel n) q
    | .typedef q i => qualify fuel (e.canonicalWith fuel (e.typedef i).underlying) q
    | .decayed _ a => e.canonicalWith fuel a
    | .complex q el => .complex q (e.canonicalWith fuel el)
    | .vector q el n x => .vector q (e.canonicalWith fuel el) n x
    | .typeofExpr q _ u x | .typeofType q u x =>
      let c := e.canonicalWith fuel u
      qualify fuel (if x then c.unqualified else c) q
    | .atomic q i => .atomic q (e.canonicalWith fuel i)
    | .bitInt q u n => .bitInt q u n
    | .blockPointer q p => .blockPointer q (e.canonicalWith fuel p)
    | .objcObject q n => .objcObject q n
    | .reference r p => .reference r (e.canonicalWith fuel p)
    | .decltype q _ u => qualify fuel (e.canonicalWith fuel u) q
    | .attributed _ _ eq => e.canonicalWith fuel eq
    | .invalid => .invalid

/-- The canonical form of a type. -/
def canonical (e : Entities) (t : Ty) : Ty := e.canonicalWith depthLimit t

/-- Removes the sugar at the top of a type only: typedef names, `struct`-style names and
`typeof`, keeping the qualifiers. -/
def desugarTop (e : Entities) : Nat → Ty → Ty
  | 0, t => t
  | fuel + 1, t =>
    match t with
    | .elaborated q _ n _ => (e.desugarTop fuel n).addQuals q
    | .decltype q _ u => (e.desugarTop fuel u).addQuals q
    | .typedef q i => (e.desugarTop fuel (e.typedef i).underlying).addQuals q
    | .typeofExpr q _ u x | .typeofType q u x =>
      let d := e.desugarTop fuel u
      (if x then d.unqualified else d).addQuals q
    | .decayed _ a => e.desugarTop fuel a
    | .attributed _ _ eq => e.desugarTop fuel eq
    | t => t

/-- The type with its top sugar removed. -/
def bare (e : Entities) (t : Ty) : Ty := e.desugarTop depthLimit t

/-- What a type with an attribute stands for, when the attribute is found below the sugar at
the top of the type: names of typedefs, `struct`-style names, `typeof` and adjusted parameter
types. -/
def attributedBelow (e : Entities) : Nat → Ty → Option Ty
  | 0, _ => none
  | fuel + 1, t =>
    match t with
    | .attributed _ _ eq => some eq
    | .elaborated _ _ n _ | .decayed _ n | .typeofType _ n _ | .typeofExpr _ _ n _
    | .decltype _ _ n => e.attributedBelow fuel n
    | .typedef _ i => e.attributedBelow fuel (e.typedef i).underlying
    | _ => none

/-- Whether a type is variably modified: an array whose size is no constant, or a pointer to or
an array of such a type. -/
def variablyModified (e : Entities) : Nat → Ty → Bool
  | 0, _ => false
  | fuel + 1, t =>
    match e.bare t with
    | .array _ el size _ _ =>
      (match size with
       | .variable _ | .star => true
       | _ => false) || e.variablyModified fuel el
    | .pointer _ p => e.variablyModified fuel p
    | _ => false

/-- Whether a type is a vector type, sugar aside. -/
def isVector (e : Entities) (t : Ty) : Bool :=
  match e.bare t with
  | .vector .. => true
  | _ => false

/-- Whether a typedef is the name of an anonymous record or enum, which it names. -/
def namesAnonymous (e : Entities) (i : Nat) : Bool :=
  let d := e.typedef i
  match e.bare d.underlying with
  | .tag _ j => (e.tag j).name.isNone && (e.tag j).typedefName == some d.name
  | _ => false

/-- A type as a diagnostic explains it, and whether that explanation is worth showing. The
diagnostic looks through the sugar at the top of the type, qualifiers kept: through
`struct`-style names and parameter types silently, and through typedef names and `typeof`
noting that it did, but not into a vector or the record that a typedef names when the record
has no name of its own. It then does the same to the result and parameters of a function type
and to the pointee of a pointer. -/
def diagnosticSugar (e : Entities) : Nat → Ty → Ty × Bool
  | 0, t => (t, false)
  | fuel + 1, t =>
    match t with
    | .elaborated q _ n _ => ((e.diagnosticSugar fuel n).1.addQuals q, (e.diagnosticSugar fuel n).2)
    | .decltype q _ u => ((e.diagnosticSugar fuel u).1.addQuals q, true)
    | .decayed _ a => e.diagnosticSugar fuel a
    | .attributed _ _ eq => e.diagnosticSugar fuel eq
    | .typedef q i =>
      let u := (e.typedef i).underlying
      if e.isVector u || e.namesAnonymous i then (t, false)
      else ((e.diagnosticSugar fuel u).1.addQuals q, true)
    | .typeofExpr q _ u x | .typeofType q u x =>
      let d := (e.diagnosticSugar fuel u).1
      ((if x then d.unqualified else d).addQuals q, true)
    | .pointer q p =>
      let (p', aka) := e.diagnosticSugar fuel p
      (.pointer q p', aka)
    | .function r ps v pr =>
      let (r', ra) := e.diagnosticSugar fuel r
      let params := ps.map (e.diagnosticSugar fuel)
      if ra || params.any (·.2) then (.function r' (params.map (·.1)) v pr, true) else (t, false)
    | _ => (t, false)

/-- Whether a type is `void`, sugar aside. -/
def isVoid (e : Entities) (t : Ty) : Bool :=
  match e.bare t with
  | .builtin _ .void => true
  | _ => false

/-- Whether a type is a function type, sugar aside. -/
def isFunction (e : Entities) (t : Ty) : Bool :=
  match e.bare t with
  | .function .. => true
  | _ => false

/-- Whether a type is an array type, sugar aside. -/
def isArray (e : Entities) (t : Ty) : Bool :=
  match e.bare t with
  | .array .. => true
  | _ => false

/-- Whether a type is `__fp16`, sugar aside. -/
def isHalf (e : Entities) (t : Ty) : Bool :=
  match e.bare t with
  | .builtin _ .half => true
  | _ => false

/-- Whether a type is incomplete: `void`, an array without size, or a record or enum whose
definition has not been read. -/
def isIncomplete (e : Entities) (t : Ty) : Bool :=
  match e.bare t with
  | .builtin _ .void => true
  | .array _ _ .incomplete _ _ => true
  | .tag _ i => !(e.tag i).complete
  | _ => false

/-- The type a parameter declared with type `t` stands for: arrays become pointers to their
elements, functions pointers to them. -/
def adjustParam (e : Entities) (t : Ty) : Ty :=
  match e.bare t with
  | .array _ el _ iq _ => .decayed t (.pointer iq el)
  | .function .. => .decayed t (.pointer {} t)
  | _ => t

/-- The number of a record or enum type, sugar aside. -/
def tagOf? (e : Entities) (t : Ty) : Option Nat :=
  match e.bare t with
  | .tag _ i => some i
  | _ => none

end Entities

end NativeBindings.Header
