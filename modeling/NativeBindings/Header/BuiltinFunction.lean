import NativeBindings.Header.Type
import NativeBindings.Header.BuiltinTable

/-!
# Builtin functions

A call of a builtin function needs no declaration: the function's type comes from the table
of `Header.BuiltinTable`, read here (`decodeSignature`). Which builtins a reading knows depends
on the language, its extensions and the processor (`BuiltinContext`). A function of the library
that the front end treats as a builtin is known too, but it is declared implicitly, with a
complaint, when it is called undeclared.
-/

namespace NativeBindings.Header

/-- What decides which builtins a reading knows. -/
structure BuiltinContext where
  gnu : Bool := true
  microsoft : Bool := false
  cxx : Bool := false
  x86 : Bool := true
  x86_64 : Bool := true
deriving Inhabited, Repr

/-- Whether a builtin of a scope is known in a context. -/
def BuiltinScope.known (c : BuiltinContext) : BuiltinScope → Bool
  | .everywhere => true
  | .gnu => c.gnu
  | .microsoft => c.microsoft
  | .cxx => c.cxx
  | .x86 => c.x86
  | .x86_64 => c.x86_64

namespace BuiltinFunction

/-- Whether calls of the builtin are checked by rules of their own rather than by its type. -/
def customChecked (b : BuiltinFunction) : Bool := b.properties.contains 't'

/-- Whether a function of the library, named without `__builtin_`. -/
def isLibrary (b : BuiltinFunction) : Bool := b.properties.contains 'f'

end BuiltinFunction

/-- The builtin function of a name that a context knows. -/
def builtinFunction? (c : BuiltinContext) (name : String) : Option BuiltinFunction :=
  builtinFunctionTable.find? fun b => b.name == name && b.scope.known c

/-- The modifiers written before the base letter of a type code. -/
structure TypeModifiers where
  signed : Bool := false
  unsigned : Bool := false
  longs : Nat := 0
  /-- `N`: the 32-bit integer, `long` where `long` has 32 bits. -/
  intOrLong : Bool := false
  /-- `W`: the 64-bit integer of the target. -/
  int64 : Bool := false
  /-- `O`: `long long`. -/
  longLong : Bool := false
  complex : Bool := false
deriving Inhabited, Repr

/-- Reads the modifiers at the start of a type code. -/
def readModifiers : List Char → TypeModifiers → TypeModifiers × List Char
  | 'S' :: r, m => readModifiers r { m with signed := true }
  | 'U' :: r, m => readModifiers r { m with unsigned := true }
  | 'L' :: r, m => readModifiers r { m with longs := m.longs + 1 }
  | 'N' :: r, m => readModifiers r { m with intOrLong := true }
  | 'W' :: r, m => readModifiers r { m with int64 := true }
  | 'O' :: r, m => readModifiers r { m with longLong := true }
  | 'X' :: r, m => readModifiers r { m with complex := true }
  | 'Z' :: r, m => readModifiers r m
  | 'I' :: r, m => readModifiers r m
  | cs, m => (m, cs)

/-- The integer type of a number of `long`s, signed or not: `int`, `long`, `long long` and
`__int128`. -/
def integerOfLongs (unsigned : Bool) (longs : Nat) : Builtin :=
  let b : Builtin := match longs with
    | 0 => .int
    | 1 => .long
    | 2 => .longLong
    | _ => .int128
  if unsigned then b.toUnsigned else b

/-- The type of a base letter after its modifiers, on a target with the model `tm`. The types
of the library that headers declare (`FILE`, `jmp_buf`) stand as `void` here, and `va_list` as a
`void *`, which every pointer converts to. -/
def baseType (tm : TypeModel) (m : TypeModifiers) (c : Char) : Option Ty :=
  let longs :=
    if m.int64 then (if tm.int64Type == .long then 1 else 2)
    else if m.longLong then 2
    else if m.intOrLong then (if tm.longSize == 4 then 1 else 0)
    else m.longs
  let plain (b : Builtin) : Option Ty := some (.builtin {} b)
  let t : Option Ty := match c with
    | 'v' => plain .void
    | 'b' => plain .bool
    | 'c' => plain (if m.unsigned then .unsignedChar else if m.signed then .signedChar else .char)
    | 's' => plain (if m.unsigned then .unsignedShort else .short)
    | 'i' => plain (integerOfLongs m.unsigned longs)
    | 'h' => plain .half
    | 'x' => plain .float16
    | 'y' => plain .bfloat16
    | 'f' => plain .float
    | 'd' => plain (match longs with
      | 0 => .double
      | 1 => .longDouble
      | _ => .float128)
    | 'z' => plain (if m.signed then tm.ptrdiffType else tm.sizeType)
    | 'w' => plain tm.wcharType
    | 'Y' => plain tm.ptrdiffType
    | 'p' => plain .int
    | 'a' | 'A' => some (.pointer {} (.builtin {} .void))
    | 'P' | 'J' | 'K' | 'F' | 'G' | 'H' | 'M' => plain .void
    | _ => none
  if m.complex then t.map (.complex {}) else t

/-- Reads the suffixes after a base type: pointers, references (which C reads as pointers) and
qualifiers. A pointer may name an address space by a digit, which is passed over. -/
def readSuffixes : List Char → Ty → Ty × List Char
  | '*' :: rest@(d :: r), t =>
    if d.isDigit then readSuffixes r (.pointer {} t) else readSuffixes rest (.pointer {} t)
  | ['*'], t => (.pointer {} t, [])
  | '&' :: r, t => readSuffixes r (.pointer {} t)
  | 'C' :: r, t => readSuffixes r (t.setQuals (t.quals.union Quals.constOnly))
  | 'D' :: r, t => readSuffixes r (t.setQuals (t.quals.union { volatile := true }))
  | 'R' :: r, t => readSuffixes r (t.setQuals (t.quals.union { restrict := true }))
  | cs, t => (t, cs)

/-- Reads one type code, giving the type and the rest. A vector, `V` with its length before its
element, is read too. -/
def readTypeCode (tm : TypeModel) : Nat → List Char → Option (Ty × List Char)
  | 0, _ => none
  | fuel + 1, cs =>
    match cs with
    | 'V' :: r =>
      let digits := r.takeWhile Char.isDigit
      let count := digits.foldl (fun n d => 10 * n + (d.toNat - 48)) 0
      match readTypeCode tm fuel (r.dropWhile Char.isDigit) with
      | some (el, rest) => some (readSuffixes rest (.vector {} el count false))
      | none => none
    | _ =>
      let (m, rest) := readModifiers cs {}
      match rest with
      | c :: more => (baseType tm m c).map (readSuffixes more)
      | [] => none

/-- Reads the type codes of a signature up to its end or its final `.`. -/
def readTypeCodes (tm : TypeModel) : Nat → List Char → Option (List Ty × Bool)
  | 0, _ => none
  | _, [] => some ([], false)
  | _, ['.'] => some ([], true)
  | fuel + 1, cs =>
    match readTypeCode tm (cs.length + 1) cs with
    | some (t, rest) => (readTypeCodes tm fuel rest).map fun (ts, v) => (t :: ts, v)
    | none => none

/-- The result type, the parameter types and whether more arguments may follow, of a signature
of the builtin table. -/
def decodeSignature (tm : TypeModel) (signature : String) : Option (Ty × List Ty × Bool) :=
  let cs := signature.toList
  match readTypeCodes tm (cs.length + 1) cs with
  | some (r :: ps, variadic) => some (r, ps, variadic)
  | _ => none

/-- The type of a builtin function as calls see it: that of its signature, with a prototype; a
function whose calls follow rules of their own takes any arguments. -/
def BuiltinFunction.type (tm : TypeModel) (b : BuiltinFunction) : Ty :=
  match decodeSignature tm b.signature with
  | some (r, ps, variadic) =>
    if b.customChecked then .function r [] true true else .function r ps variadic true
  | none => .function (.builtin {} .int) [] true true

/-- The type of a builtin function of a name, when a context knows it as a builtin rather than
as a function of the library. -/
def builtinFunctionType? (c : BuiltinContext) (tm : TypeModel) (name : String) : Option Ty :=
  match builtinFunction? c name with
  | some b => if b.isLibrary then none else some (b.type tm)
  | none => none

end NativeBindings.Header
