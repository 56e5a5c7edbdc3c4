/-!
# C types as the front end sees them

`Ty` is a C type as it was written, sugar included: a name of a typedef stays a name, and a
type written with `struct`, `union` or `enum` before it is marked so (`elaborated`), because
both change how a type is spelled and what it is called in C#. Every node carries its own
qualifiers. Records, enums and typedefs are referred to by number; the tables that hold them
are in `Header.Entity`.

A parameter of array or function type keeps the type it was written with beside the pointer
type it stands for (`decayed`).
-/

namespace NativeBindings.Header

/-- The address space that a type lives in: the generic one; one of the target's, by number,
as `address_space (n)` asks; or one of Microsoft's spaces for pointers of another width, which
the pointer kinds `__ptr32`, `__sptr`, `__uptr` and `__ptr64` give the pointed-to type. -/
inductive AddressSpace where
  | generic
  | target (n : Nat)
  | ptr32Signed
  | ptr32Unsigned
  | ptr64
deriving DecidableEq, Inhabited, Repr

/-- The address space as types are written with it. -/
def AddressSpace.render : AddressSpace → String
  | .generic => ""
  | .target n => "__attribute__((address_space(" ++ toString n ++ ")))"
  | .ptr32Signed => "__sptr __ptr32"
  | .ptr32Unsigned => "__uptr __ptr32"
  | .ptr64 => "__ptr64"

/-- The qualifiers of a type, its address space among them. -/
structure Quals where
  const : Bool := false
  volatile : Bool := false
  restrict : Bool := false
  space : AddressSpace := .generic
deriving DecidableEq, Inhabited, Repr

namespace Quals

/-- No qualifier. -/
def none : Quals := {}

/-- Only `const`. -/
def constOnly : Quals := { const := true }

/-- Whether no qualifier is set. -/
def isEmpty (q : Quals) : Bool := !q.const && !q.volatile && !q.restrict && q.space == .generic

/-- The qualifiers of both; the address space of `b` wins when it has one. -/
def union (a b : Quals) : Quals :=
  ⟨a.const || b.const, a.volatile || b.volatile, a.restrict || b.restrict,
    if b.space == .generic then a.space else b.space⟩

/-- The words of the qualifiers, in the order `const volatile restrict`, then the address
space. -/
def words (q : Quals) : List String :=
  (if q.const then ["const"] else []) ++ (if q.volatile then ["volatile"] else []) ++
    (if q.restrict then ["restrict"] else []) ++
    (if q.space == .generic then [] else [q.space.render])

/-- The qualifiers as text. -/
def render (q : Quals) : String := " ".intercalate q.words

end Quals

/-- The arithmetic and `void` types that C and its extensions build in. -/
inductive Builtin where
  | void
  | bool
  | char
  | signedChar
  | unsignedChar
  | short
  | unsignedShort
  | int
  | unsignedInt
  | long
  | unsignedLong
  | longLong
  | unsignedLongLong
  | int128
  | unsignedInt128
  | float
  | double
  | longDouble
  /-- `__fp16`, a storage-only half float. -/
  | half
  /-- `_Float16`. -/
  | float16
  /-- `__bf16`. -/
  | bfloat16
  /-- `__float128`. -/
  | float128
  /-- `__ibm128`, PowerPC's pair of `double`s. -/
  | ibm128
  /-- `wchar_t`, a type of its own in C++. -/
  | wchar
  /-- `char8_t`, `char16_t` and `char32_t`, the character types of C++. -/
  | char8
  | char16
  | char32
  /-- The type of `nullptr` in C++. -/
  | nullptr
deriving DecidableEq, Inhabited, Repr

/-- The formats of `long double`. -/
inductive LongDoubleFormat where
  /-- The 80-bit extended format of the x87. -/
  | x87
  /-- The same format as `double`. -/
  | double
  /-- IEEE quadruple precision. -/
  | quad
  /-- A pair of `double`s, as PowerPC has it. -/
  | doubleDouble
deriving DecidableEq, Inhabited, Repr

/-- The shapes of `__builtin_va_list`: a pointer, or the record of an ABI that passes arguments
in registers, which x86-64, SystemZ and 32-bit PowerPC make an array of one record. -/
inductive VaListKind where
  | charPointer
  | voidPointer
  | x86_64
  | aarch64
  | aapcs
  | systemz
  | powerpc
deriving DecidableEq, Inhabited, Repr

/-- What a target and the options decide about the builtin types: the sizes in bytes of
`long` and of pointers and of `long double`; the alignment of `double`, `long long` and
`long double`, which 32-bit x86 keeps to four bytes; whether plain `char` is unsigned; whether
`__int128` exists; whether records are laid out as Microsoft's compiler does; the largest
atomic object that is made a power of two; and the types of `sizeof`, of a difference of
pointers, of wide characters and of 64-bit integers. The defaults are those of 64-bit x86 on
Linux. -/
structure TypeModel where
  longSize : Nat := 8
  pointerSize : Nat := 8
  longDoubleSize : Nat := 16
  longDoubleAlign : Nat := 16
  longDoubleFormat : LongDoubleFormat := .x87
  wideAlign : Nat := 8
  charUnsigned : Bool := false
  /-- Every enum takes the smallest integer type that holds its values, as if packed. -/
  shortEnums : Bool := false
  int128 : Bool := true
  int128Align : Nat := 16
  /-- `__float128` exists. -/
  float128 : Bool := true
  /-- `__ibm128`, PowerPC's pair of `double`s, exists. -/
  ibm128 : Bool := false
  microsoftLayout : Bool := false
  atomicPromote : Nat := 16
  /-- The largest atomic object, in bytes, that is operated on without a lock. -/
  atomicInline : Nat := 8
  vaList : VaListKind := .x86_64
  /-- Microsoft's `va_list`, `__builtin_ms_va_list`, exists beside the target's own. -/
  msVaList : Bool := true
  bigEndian : Bool := false
  sizeType : Builtin := .unsignedLong
  ptrdiffType : Builtin := .long
  intmaxType : Builtin := .long
  wcharType : Builtin := .int
  wintType : Builtin := .unsignedInt
  /-- The type of 64-bit integers: `long` where it has 64 bits, `long long` elsewhere. -/
  int64Type : Builtin := .long
  /-- Pointers into Microsoft's 32-bit and 64-bit address spaces have those widths. -/
  sizedPointers : Bool := true
deriving Inhabited, Repr

/-- The size in bytes of a pointer to a type in an address space. -/
def TypeModel.pointerSizeIn (m : TypeModel) : AddressSpace → Nat
  | .ptr32Signed | .ptr32Unsigned => if m.sizedPointers then 4 else m.pointerSize
  | .ptr64 => if m.sizedPointers then 8 else m.pointerSize
  | _ => m.pointerSize

namespace Builtin

/-- The spelling of a builtin type; `bool` is spelled `bool` from C23 on. -/
def name (c23 : Bool) : Builtin → String
  | .void => "void"
  | .bool => if c23 then "bool" else "_Bool"
  | .char => "char"
  | .signedChar => "signed char"
  | .unsignedChar => "unsigned char"
  | .short => "short"
  | .unsignedShort => "unsigned short"
  | .int => "int"
  | .unsignedInt => "unsigned int"
  | .long => "long"
  | .unsignedLong => "unsigned long"
  | .longLong => "long long"
  | .unsignedLongLong => "unsigned long long"
  | .int128 => "__int128"
  | .unsignedInt128 => "unsigned __int128"
  | .float => "float"
  | .double => "double"
  | .longDouble => "long double"
  | .half => "__fp16"
  | .float16 => "_Float16"
  | .bfloat16 => "__bf16"
  | .float128 => "__float128"
  | .ibm128 => "__ibm128"
  | .wchar => "wchar_t"
  | .char8 => "char8_t"
  | .char16 => "char16_t"
  | .char32 => "char32_t"
  | .nullptr => "std::nullptr_t"

/-- Whether the type is an integer type (`_Bool` and `char` included). -/
def isInteger : Builtin → Bool
  | .bool | .char | .signedChar | .unsignedChar | .short | .unsignedShort | .int
  | .unsignedInt | .long | .unsignedLong | .longLong | .unsignedLongLong | .int128
  | .unsignedInt128 | .wchar | .char8 | .char16 | .char32 => true
  | _ => false

/-- Whether the type is a floating type. -/
def isFloating : Builtin → Bool
  | .float | .double | .longDouble | .half | .float16 | .bfloat16 | .float128 | .ibm128 => true
  | _ => false

/-- Whether an integer type is unsigned (`char` is signed here). -/
def isUnsigned : Builtin → Bool
  | .bool | .unsignedChar | .unsignedShort | .unsignedInt | .unsignedLong
  | .unsignedLongLong | .unsignedInt128 | .char8 | .char16 | .char32 => true
  | _ => false

/-- The size in bytes, on a target with the model `m`. -/
def sizeIn (m : TypeModel) : Builtin → Nat
  | .void => 1
  | .bool | .char | .signedChar | .unsignedChar | .char8 => 1
  | .short | .unsignedShort | .half | .float16 | .bfloat16 | .char16 => 2
  | .int | .unsignedInt | .float | .char32 => 4
  | .wchar =>
    if m.wcharType == .unsignedShort || m.wcharType == .short then 2
    else if m.wcharType == .long || m.wcharType == .unsignedLong then m.longSize else 4
  | .nullptr => m.pointerSize
  | .long | .unsignedLong => m.longSize
  | .longLong | .unsignedLongLong | .double => 8
  | .longDouble => m.longDoubleSize
  | .int128 | .unsignedInt128 | .float128 | .ibm128 => 16

/-- The width in bits of an integer type. -/
def bitsIn (m : TypeModel) (b : Builtin) : Nat := if b == .bool then 1 else 8 * b.sizeIn m

/-- The alignment in bytes that the target's ABI requires. -/
def alignIn (m : TypeModel) : Builtin → Nat
  | .double | .longLong | .unsignedLongLong => m.wideAlign
  | .longDouble => m.longDoubleAlign
  | .int128 | .unsignedInt128 => m.int128Align
  | b => b.sizeIn m

/-- The alignment in bytes that the target prefers, which `__alignof__` gives: the size for
`double` and `long long`, which the ABI may align less. -/
def preferredAlignIn (m : TypeModel) : Builtin → Nat
  | .double | .longLong | .unsignedLongLong => 8
  | b => b.alignIn m

/-- Whether an integer type is unsigned on a target with the model `m`, where plain `char` may
be either. -/
def isUnsignedIn (m : TypeModel) (b : Builtin) : Bool :=
  if b == .char then m.charUnsigned
  else if b == .wchar then m.wcharType.isUnsigned
  else b.isUnsigned

/-- The rank of an integer type in the usual conversions. -/
def rank : Builtin → Nat
  | .bool => 1
  | .char | .signedChar | .unsignedChar | .char8 => 2
  | .short | .unsignedShort | .char16 => 3
  | .int | .unsignedInt | .char32 | .wchar => 4
  | .long | .unsignedLong => 5
  | .longLong | .unsignedLongLong => 6
  | .int128 | .unsignedInt128 => 7
  | _ => 0

/-- The unsigned type of the same rank. -/
def toUnsigned : Builtin → Builtin
  | .char | .signedChar => .unsignedChar
  | .short => .unsignedShort
  | .int => .unsignedInt
  | .long => .unsignedLong
  | .longLong => .unsignedLongLong
  | .int128 => .unsignedInt128
  | b => b

end Builtin

/-- The kinds of tags: the records `struct`, `union` and, in C++, `class`, and `enum`. -/
inductive TagKind where
  | struct
  | union
  | enum
  | classTag
deriving DecidableEq, Inhabited, Repr

/-- The keyword of a tag kind. -/
def TagKind.keyword : TagKind → String
  | .struct => "struct"
  | .union => "union"
  | .enum => "enum"
  | .classTag => "class"

/-- Whether a tag kind is a record kind. -/
def TagKind.isRecord (k : TagKind) : Bool := k != .enum

/-- The size of an array type. -/
inductive ArraySize where
  /-- A constant number of elements. -/
  | constant (n : Nat)
  /-- No size, as in `int a[]`. -/
  | incomplete
  /-- A size that is not constant, with its spelling. -/
  | variable (text : String)
  /-- `[*]`, an unspecified variable size. -/
  | star
  /-- A size that holds an error already reported, with its spelling; nothing is known of it. -/
  | dependent (text : String)
deriving DecidableEq, Inhabited, Repr

/-- The attributes that make a type of their own without changing what it is: the nullability
of a pointer, Microsoft's pointer kinds and an address space. -/
inductive TypeAttr where
  | nonnull
  | nullable
  | nullUnspecified
  | nullableResult
  | ptr32
  | ptr64
  | sptr
  | uptr
  | addressSpace
deriving DecidableEq, Inhabited, Repr

namespace TypeAttr

/-- The keyword that writes the attribute; an address space has none. -/
def keyword : TypeAttr → String
  | .nonnull => "_Nonnull"
  | .nullable => "_Nullable"
  | .nullUnspecified => "_Null_unspecified"
  | .nullableResult => "_Nullable_result"
  | .ptr32 => "__ptr32"
  | .ptr64 => "__ptr64"
  | .sptr => "__sptr"
  | .uptr => "__uptr"
  | .addressSpace => ""

/-- Whether the attribute tells the nullability of a pointer. -/
def isNullability : TypeAttr → Bool
  | .nonnull | .nullable | .nullUnspecified | .nullableResult => true
  | _ => false

/-- Whether the attribute is one of Microsoft's pointer kinds. -/
def isPointerKind : TypeAttr → Bool
  | .ptr32 | .ptr64 | .sptr | .uptr => true
  | _ => false

/-- The attribute of a keyword. -/
def ofKeyword? : String → Option TypeAttr
  | "_Nonnull" => some .nonnull
  | "_Nullable" => some .nullable
  | "_Null_unspecified" => some .nullUnspecified
  | "_Nullable_result" => some .nullableResult
  | "__ptr32" => some .ptr32
  | "__ptr64" => some .ptr64
  | "__sptr" => some .sptr
  | "__uptr" => some .uptr
  | _ => none

end TypeAttr

/-- A C type as written. -/
inductive Ty where
  /-- A builtin type. -/
  | builtin (q : Quals) (b : Builtin)
  /-- A pointer. -/
  | pointer (q : Quals) (pointee : Ty)
  /-- An array; `indexQuals` and `isStatic` are written inside the brackets of a parameter. -/
  | array (q : Quals) (element : Ty) (size : ArraySize) (indexQuals : Quals) (isStatic : Bool)
  /-- A function type; `prototyped` is false for `f()` before C23. -/
  | function (result : Ty) (params : List Ty) (variadic : Bool) (prototyped : Bool)
  /-- The type of the record or enum with this number. -/
  | tag (q : Quals) (id : Nat)
  /-- A type named in source: `struct S`, `enum E`, or a typedef name (`keyword` none), with
  the scopes written before the name, as in `N::S` (`qualifier` is then `N::`). -/
  | elaborated (q : Quals) (keyword : Option TagKind) (named : Ty) (qualifier : String)
  /-- The typedef with this number. -/
  | typedef (q : Quals) (id : Nat)
  /-- A parameter's type: as written, and the pointer it stands for. -/
  | decayed (original : Ty) (adjusted : Ty)
  /-- `_Complex T`. -/
  | complex (q : Quals) (element : Ty)
  /-- A vector of `count` elements: a GNU vector, or an extended one (`ext_vector_type`). -/
  | vector (q : Quals) (element : Ty) (count : Nat) (extended : Bool)
  /-- `typeof (expr)`, with the expression's spelling and type; `typeof_unqual` when
  `unqualified`, which drops the qualifiers of the type. -/
  | typeofExpr (q : Quals) (expr : String) (underlying : Ty) (unqualified : Bool)
  /-- `typeof (type)`, or `typeof_unqual` when `unqualified`. -/
  | typeofType (q : Quals) (inner : Ty) (unqualified : Bool)
  /-- `_Atomic(T)`. -/
  | atomic (q : Quals) (inner : Ty)
  /-- `_BitInt(N)`. -/
  | bitInt (q : Quals) (unsigned : Bool) (bits : Nat)
  /-- A block pointer, as in `void (^)(int)`; it points to a function type. -/
  | blockPointer (q : Quals) (pointee : Ty)
  /-- An Objective-C type, written by its name: the object type `id`, the class type `Class`,
  the selector type `SEL`, or the type of a class. -/
  | objcObject (q : Quals) (name : String)
  /-- A C++ reference: to an lvalue (`T &`), or to an rvalue (`T &&`) when `rvalue`. -/
  | reference (rvalue : Bool) (referee : Ty)
  /-- `decltype (expr)` in C++, with the expression's spelling and type. -/
  | decltype (q : Quals) (expr : String) (underlying : Ty)
  /-- A type with an attribute: as written (`modified`), and what it is (`equivalent`), which
differs from it only where a pointer kind moves what the pointer points to into another
address space. -/
  | attributed (attr : TypeAttr) (modified : Ty) (equivalent : Ty)
  /-- A type that could not be formed. -/
  | invalid
deriving Inhabited, Repr, BEq

namespace Ty

/-- The `int` type. -/
def int : Ty := .builtin {} .int

/-- The qualifiers of the outermost node. -/
def quals : Ty → Quals
  | .builtin q _ | .pointer q _ | .array q _ _ _ _ | .tag q _ | .elaborated q _ _ _ | .typedef q _
  | .complex q _ | .vector q _ _ _ | .typeofExpr q _ _ _ | .typeofType q _ _ | .atomic q _
  | .bitInt q _ _ | .blockPointer q _ | .objcObject q _ | .decltype q _ _ => q
  | .attributed _ m _ => m.quals
  | .function .. | .decayed .. | .reference .. | .invalid => {}

/-- The type with other qualifiers on its outermost node. -/
def setQuals (t : Ty) (q : Quals) : Ty :=
  match t with
  | .attributed a m e => .attributed a (m.setQuals q) (e.setQuals q)
  | .builtin _ b => .builtin q b
  | .pointer _ p => .pointer q p
  | .array _ e s iq st => .array q e s iq st
  | .tag _ i => .tag q i
  | .elaborated _ k n s => .elaborated q k n s
  | .typedef _ i => .typedef q i
  | .complex _ e => .complex q e
  | .vector _ e n x => .vector q e n x
  | .typeofExpr _ s u x => .typeofExpr q s u x
  | .typeofType _ i x => .typeofType q i x
  | .atomic _ i => .atomic q i
  | .bitInt _ u n => .bitInt q u n
  | .blockPointer _ p => .blockPointer q p
  | .objcObject _ n => .objcObject q n
  | .decltype _ s u => .decltype q s u
  | t => t

/-- The type without its qualifiers; an array loses those of its elements as well. -/
def unqualified : Ty → Ty
  | .array _ el s iq st => .array {} el.unqualified s iq st
  | t => t.setQuals {}

/-- The type with more qualifiers on its outermost node. -/
def addQuals (t : Ty) (q : Quals) : Ty := t.setQuals (t.quals.union q)

/-- Whether the outermost node is `const`. -/
def isConst (t : Ty) : Bool := t.quals.const

/-- The type as a parameter is written, before it stands for a pointer. -/
def written : Ty → Ty
  | .decayed o _ => o
  | t => t

end Ty

end NativeBindings.Header
