import NativeBindings.Header.Spelling
import NativeBindings.Descriptor.Basic
import NativeBindings.Text.Blank

/-!
# Describing a type

`Entities.describe` turns a type of a unit into a descriptor (`CType`), the form that naming a
type in C# works on. The kinds that the descriptor tells apart are those the front end reports
for a type: a `struct`-style name stands for what it names, with the spelling of the whole when
that is a record or typedef; an enum stands for its integer type; a pointer to a typedef of a
function type points at the function type itself, so that it becomes a callback.

One floating type has a kind that the front end's reporting does not know, `_Float16`;
describing a type that reaches it fails with `UnknownKind`, whose number is the kind's number.
`__bf16`, `__fp16`, `__float128`, `__ibm128`, and C++'s `char8_t` and type of `nullptr` are reported as other
types.
-/

namespace NativeBindings.Header

/-- A type whose kind cannot be reported, with the kind's number. -/
structure UnknownKind where
  code : Nat
deriving Inhabited, Repr

/-- The text of the failure. -/
def UnknownKind.message (u : UnknownKind) : String :=
  "Unknown template argument kind " ++ toString u.code

/-- The kinds that descriptors are built from. -/
inductive Kind where
  | builtin
  | pointer
  | constantArray (count : Nat)
  | otherArray
  | function (prototyped : Bool)
  | record
  | enumeration
  | elaborated
  | typedef
  | other
deriving Inhabited, Repr, BEq

/-- Whether a kind is a function kind. -/
def Kind.isFunction : Kind → Bool
  | .function _ => true
  | _ => false

/-- Drops the qualifier words of a spelling, whose words are then joined by single spaces. -/
def unqualifiedSpelling (s : String) : String :=
  " ".intercalate ((Text.words s).filter fun w => w != "const" && w != "volatile" && w != "restrict")

namespace Entities

/-- A type as the front end reports it: a type with an attribute below its sugar is reported as
what the attribute makes of it, its sugar and the qualifiers above the attribute dropped, and a
type adjusted from an array or function as written. -/
def asReported (e : Entities) : Nat → Ty → Ty
  | 0, t => t.written
  | fuel + 1, t =>
    match e.attributedBelow fuel t.written with
    | some eq => e.asReported fuel eq
    | none => t.written

/-- The kind of a type as the front end reports it. A type adjusted from an array or function
is reported as written. -/
def kind (e : Entities) (t : Ty) : Except UnknownKind Kind :=
  match t.written with
  | .builtin _ .float16 => .error ⟨32⟩
  | .builtin _ .half | .builtin _ .float128 | .builtin _ .ibm128 | .builtin _ .bfloat16 | .builtin _ .char8
  | .builtin _ .nullptr => .ok .other
  | .builtin .. => .ok .builtin
  | .pointer _ p =>
    -- a pointer to an Objective-C class is an object pointer, which has a kind of its own
    match e.canonical p with
    | .objcObject .. => .ok .other
    | _ => .ok .pointer
  | .array _ _ (.constant n) _ _ => .ok (.constantArray n)
  | .array .. => .ok .otherArray
  | .function _ _ _ p => .ok (.function p)
  | .tag _ i => .ok (if (e.tag i).kind == .enum then .enumeration else .record)
  | .elaborated .. => .ok .elaborated
  | .typedef _ i =>
    -- `id`, `Class` and `SEL` themselves are reported by their own kinds
    match (e.typedef i).pos, (e.typedef i).underlying with
    | none, .objcObject .. => .ok .other
    | _, _ => .ok .typedef
  | _ => .ok .other

/-- The descriptor of a type, built to depth `fuel`. -/
def describeWith (e : Entities) : Nat → Ty → Except UnknownKind CType
  | 0, _ => .ok { category := .other, spelling := "" }
  | fuel + 1, t => do
    let t := e.asReported fuel t
    let k ← e.kind t
    let isConst := t.isConst
    let spelling := e.spell t
    match t with
    | .invalid => pure { category := .other, spelling := "" }
    | _ =>
    match k with
    | .elaborated =>
      let named := match t with
        | .elaborated _ _ n _ => n
        | n => n
      let n ← e.describeWith fuel named
      let keepWhole := n.category == .record || n.category == .typedef
      pure { n with spelling := if keepWhole then unqualifiedSpelling spelling else n.spelling,
                    isConst := isConst || n.isConst }
    | .enumeration =>
      let integer := match t with
        | .tag _ i => (e.tag i).enumType.getD .invalid
        | _ => .invalid
      let n ← e.describeWith fuel integer
      pure { n with isConst }
    | .builtin => pure (CType.primitive (unqualifiedSpelling spelling) isConst)
    | .constantArray count =>
      let el ← e.describeWith fuel (match t with | .array _ el .. => el | x => x)
      pure { category := .constantArray, spelling, element := some el, size := some count }
    | .otherArray =>
      let el ← e.describeWith fuel (match t with | .array _ el .. => el | x => x)
      pure { category := .incompleteArray, spelling, element := some el }
    | .pointer =>
      let pointee := match t with
        | .pointer _ p => e.asReported fuel p
        | x => x
      let pk ← e.kind pointee
      let pointee ← if pk.isFunction then pure pointee
        else do
          let canonical := e.canonical pointee
          let ck ← e.kind canonical
          pure (if ck.isFunction then canonical else pointee)
      let p ← e.describeWith fuel pointee
      pure { category := .pointer, spelling, isConst, pointee := some p }
    | .function prototyped =>
      let (r, ps) := match t with
        | .function r ps _ _ => (r, ps)
        | x => (x, [])
      let r ← e.describeWith fuel r
      let args ← if prototyped then ps.mapM (e.describeWith fuel) else pure []
      pure { category := .function, spelling, result := some r, arguments := some args }
    | .typedef => pure (CType.typedef (unqualifiedSpelling spelling) isConst)
    | .record => pure (CType.record (unqualifiedSpelling spelling) isConst)
    | .other => pure { category := .other, spelling := unqualifiedSpelling spelling, isConst }

/-- The descriptor of a type. -/
def describe (e : Entities) (t : Ty) : Except UnknownKind CType :=
  e.describeWith depthLimit t

end Entities

end NativeBindings.Header
