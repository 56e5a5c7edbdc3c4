import NativeBindings.Header.Options

/-!
# Predefined macros

The macros that are defined before the first line of every unit: those of the compiler, of its
data model and floating-point formats, of the target processor and system, and those of the
language standard, which even `-undef` keeps. They are given as the text of `#define` lines,
followed by the lines that the command line asks for (`-D`, `-U`, `-imacros`, `-include`).

The lines stand where the compiler puts them, since an error in a file that `-include` names
is reported at the line of that request in this text: a line that marks where the macros of the
standard end, the command line's definitions, the driver's own one after them, then a line that
marks the end of the command line, and last the files to include.
-/

namespace NativeBindings.Header

/-- The integer types of C, each with its signedness. -/
inductive IntType where
  | signedChar
  | unsignedChar
  | short
  | unsignedShort
  | int
  | unsignedInt
  | long
  | unsignedLong
  | longLong
  | unsignedLongLong
deriving DecidableEq, Inhabited, Repr

namespace IntType

/-- Whether the type is signed. -/
def signed : IntType → Bool
  | .signedChar | .short | .int | .long | .longLong => true
  | _ => false

/-- The type as the compiler spells it in its macros. -/
def spelling : IntType → String
  | .signedChar => "signed char"
  | .unsignedChar => "unsigned char"
  | .short => "short"
  | .unsignedShort => "unsigned short"
  | .int => "int"
  | .unsignedInt => "unsigned int"
  | .long => "long int"
  | .unsignedLong => "long unsigned int"
  | .longLong => "long long int"
  | .unsignedLongLong => "long long unsigned int"

/-- The suffix of a constant of the type; none below `int`. -/
def suffix : IntType → String
  | .unsignedInt => "U"
  | .long => "L"
  | .unsignedLong => "UL"
  | .longLong => "LL"
  | .unsignedLongLong => "ULL"
  | _ => ""

/-- The length modifier of a `printf` conversion for the type. -/
def lengthModifier : IntType → String
  | .signedChar | .unsignedChar => "hh"
  | .short | .unsignedShort => "h"
  | .int | .unsignedInt => ""
  | .long | .unsignedLong => "l"
  | .longLong | .unsignedLongLong => "ll"

end IntType

/-- The integer type of C that a builtin integer type is, for the macros that name it. -/
def IntType.ofBuiltin : Builtin → IntType
  | .signedChar | .char => .signedChar
  | .unsignedChar => .unsignedChar
  | .short => .short
  | .unsignedShort => .unsignedShort
  | .unsignedInt => .unsignedInt
  | .long => .long
  | .unsignedLong => .unsignedLong
  | .longLong => .longLong
  | .unsignedLongLong => .unsignedLongLong
  | _ => .int

/-- What the macros say of the target's types: the widths in bits, the types that the standard
names, and the formats of the floating types. -/
structure DataModel where
  longWidth : Nat
  pointerWidth : Nat
  longDoubleWidth : Nat
  longDoubleFormat : LongDoubleFormat
  /-- Whether `long long` is aligned to less than its width. -/
  weakLongLong : Bool
  /-- The widest atomic object in bits that is operated on without a lock. -/
  atomicInlineWidth : Nat
  sizeType : IntType
  ptrdiffType : IntType
  intmaxType : IntType
  wcharType : IntType
  wintType : IntType
  int64Type : IntType
  hasInt128 : Bool
  hasFloat128 : Bool
  bigEndian : Bool
  charUnsigned : Bool

/-- The data model of a model of the builtin types. -/
def DataModel.ofTypeModel (m : TypeModel) : DataModel :=
  { longWidth := 8 * m.longSize, pointerWidth := 8 * m.pointerSize,
    longDoubleWidth := 8 * m.longDoubleSize, longDoubleFormat := m.longDoubleFormat,
    weakLongLong := m.wideAlign < 8, atomicInlineWidth := 8 * m.atomicInline,
    sizeType := .ofBuiltin m.sizeType, ptrdiffType := .ofBuiltin m.ptrdiffType,
    intmaxType := .ofBuiltin m.intmaxType, wcharType := .ofBuiltin m.wcharType,
    wintType := .ofBuiltin m.wintType, int64Type := .ofBuiltin m.int64Type,
    hasInt128 := m.int128, hasFloat128 := m.float128, bigEndian := m.bigEndian,
    charUnsigned := m.charUnsigned }

/-- The data model of the target as the options change it. -/
def Options.dataModel (o : Options) : DataModel := .ofTypeModel o.typeModel

namespace DataModel

/-- The width of an integer type in bits. -/
def width (m : DataModel) : IntType → Nat
  | .signedChar | .unsignedChar => 8
  | .short | .unsignedShort => 16
  | .int | .unsignedInt => 32
  | .long | .unsignedLong => m.longWidth
  | .longLong | .unsignedLongLong => 64

/-- The largest value of an integer type, with the suffix of its constants. -/
def maxText (m : DataModel) (t : IntType) : String :=
  let bits := if t.signed then m.width t - 1 else m.width t
  toString (Nat.pow 2 bits - 1) ++ t.suffix

/-- The unsigned type of the same width as a signed one. -/
def unsignedOf : IntType → IntType
  | .signedChar => .unsignedChar
  | .short => .unsignedShort
  | .int => .unsignedInt
  | .long => .unsignedLong
  | .longLong => .unsignedLongLong
  | t => t

/-- The smallest type of at least a width and a signedness. -/
def leastOf (m : DataModel) (bits : Nat) (signed : Bool) : IntType :=
  let t : IntType := if bits ≤ 8 then .signedChar else if bits ≤ 16 then .short
    else if bits ≤ 32 then .int else m.int64Type
  if signed then t else unsignedOf t

end DataModel

/-- The `printf` conversions defined for a type: `d` and `i` for a signed one, `o`, `u`, `x`
and `X` for an unsigned one. -/
def formatMacros (pre : String) (t : IntType) : List (String × String) :=
  let letters := if t.signed then ["d", "i"] else ["o", "u", "x", "X"]
  letters.map fun l => (pre ++ "_FMT" ++ l ++ "__", "\"" ++ t.lengthModifier ++ l ++ "\"")

/-- The largest value and the width of a type, under a prefix. -/
def sizeAndWidth (m : DataModel) (pre : String) (t : IntType) : List (String × String) :=
  [(pre ++ "_MAX__", m.maxText t), (pre ++ "_WIDTH__", toString (m.width t))]

/-- The macros of an exact-width type: its name, conversions and constant suffix. -/
def exactWidthMacros (m : DataModel) (t : IntType) : List (String × String) :=
  let w := m.width t
  let pre := (if t.signed then "__INT" else "__UINT") ++ toString w
  [(pre ++ "_TYPE__", t.spelling)] ++ formatMacros pre t ++ [(pre ++ "_C_SUFFIX__", t.suffix)]

/-- The largest value of an exact-width type. -/
def exactWidthMax (m : DataModel) (t : IntType) : String × String :=
  ((if t.signed then "__INT" else "__UINT") ++ toString (m.width t) ++ "_MAX__", m.maxText t)

/-- The macros of the least or fastest type of a width: only the signed ones have a width. -/
def leastWidthMacros (m : DataModel) (kind : String) (bits : Nat) (signed : Bool) :
    List (String × String) :=
  let t := m.leastOf bits signed
  let pre := (if signed then "__INT_" else "__UINT_") ++ kind ++ toString bits
  [(pre ++ "_TYPE__", t.spelling)] ++
    (if signed then sizeAndWidth m pre t else [(pre ++ "_MAX__", m.maxText t)]) ++
    formatMacros pre t

/-- The properties of a floating-point format, as `<float.h>` wants them. -/
structure FloatFormat where
  denormMin : String
  digits : Nat
  decimalDigits : Nat
  epsilon : String
  mantissa : Nat
  max10 : Nat
  maxExp : Nat
  max : String
  min10 : Int
  minExp : Int
  min : String

/-- The half-precision format. -/
def halfFormat : FloatFormat :=
  ⟨"5.9604644775390625e-8", 3, 5, "9.765625e-4", 11, 4, 16, "6.5504e+4", -4, -13,
   "6.103515625e-5"⟩

/-- The single-precision format. -/
def singleFormat : FloatFormat :=
  ⟨"1.40129846e-45", 6, 9, "1.19209290e-7", 24, 38, 128, "3.40282347e+38", -37, -125,
   "1.17549435e-38"⟩

/-- The double-precision format. -/
def doubleFormat : FloatFormat :=
  ⟨"4.9406564584124654e-324", 15, 17, "2.2204460492503131e-16", 53, 308, 1024,
   "1.7976931348623157e+308", -307, -1021, "2.2250738585072014e-308"⟩

/-- The 80-bit extended format of the x87. -/
def extendedFormat : FloatFormat :=
  ⟨"3.64519953188247460253e-4951", 18, 21, "1.08420217248550443401e-19", 64, 4932, 16384,
   "1.18973149535723176502e+4932", -4931, -16381, "3.36210314311209350626e-4932"⟩

/-- The IEEE quadruple-precision format. -/
def quadFormat : FloatFormat :=
  ⟨"6.47517511943802511092443895822764655e-4966", 33, 36,
   "1.92592994438723585305597794258492732e-34", 113, 4932, 16384,
   "1.18973149535723176508575932662800702e+4932", -4931, -16381,
   "3.36210314311209350626267781732175260e-4932"⟩

/-- The format of a pair of `double`s. -/
def doubleDoubleFormat : FloatFormat :=
  ⟨"4.94065645841246544176568792868221e-324", 31, 33,
   "4.94065645841246544176568792868221e-324", 106, 308, 1024,
   "1.79769313486231580793728971405301e+308", -291, -968,
   "2.00416836000897277799610805135016e-292"⟩

/-- The properties of a format of `long double`. -/
def LongDoubleFormat.properties : LongDoubleFormat → FloatFormat
  | .x87 => extendedFormat
  | .double => doubleFormat
  | .quad => quadFormat
  | .doubleDouble => doubleDoubleFormat

/-- The macros of a floating-point type: its prefix, format and the suffix of its constants. -/
def floatMacros (pre : String) (f : FloatFormat) (ext : String) : List (String × String) :=
  let p := "__" ++ pre ++ "_"
  [(p ++ "DENORM_MIN__", f.denormMin ++ ext), (p ++ "HAS_DENORM__", "1"),
   (p ++ "DIG__", toString f.digits), (p ++ "DECIMAL_DIG__", toString f.decimalDigits),
   (p ++ "EPSILON__", f.epsilon ++ ext), (p ++ "HAS_INFINITY__", "1"),
   (p ++ "HAS_QUIET_NAN__", "1"), (p ++ "MANT_DIG__", toString f.mantissa),
   (p ++ "MAX_10_EXP__", toString f.max10), (p ++ "MAX_EXP__", toString f.maxExp),
   (p ++ "MAX__", f.max ++ ext), (p ++ "MIN_10_EXP__", "(" ++ toString f.min10 ++ ")"),
   (p ++ "MIN_EXP__", "(" ++ toString f.minExp ++ ")"), (p ++ "MIN__", f.min ++ ext)]

/-- The three spellings of a system's name: the bare one only with GNU extensions. -/
def standardNames (gnu : Bool) (name : String) : List (String × String) :=
  (if gnu then [(name, "1")] else []) ++ [("__" ++ name, "1"), ("__" ++ name ++ "__", "1")]

/-- Whether atomic operations on a type are always free of locks (`2`) or only sometimes
(`1`). -/
def lockFreeValue (alignedToWidth : Bool) : String := if alignedToWidth then "2" else "1"

/-- The macros of the compiler itself and of the memory orders and scopes it knows. -/
def compilerMacros (o : Options) : List (String × String) :=
  let msvc := o.msvcCompat
  [("__llvm__", "1"), ("__clang__", "1"), ("__clang_major__", "18"), ("__clang_minor__", "1"),
   ("__clang_patchlevel__", "1"), ("__clang_version__", "\"18.1.1 \"")] ++
  (if msvc then [] else
    [("__GNUC__", "4"), ("__GNUC_MINOR__", "2"), ("__GNUC_PATCHLEVEL__", "1"),
     ("__GXX_ABI_VERSION", "1002")] ++
    (if o.language == .cxx then [("__GNUG__", "4"), ("__GXX_WEAK__", "1")] else [])) ++
  [("__ATOMIC_RELAXED", "0"), ("__ATOMIC_CONSUME", "1"), ("__ATOMIC_ACQUIRE", "2"),
   ("__ATOMIC_RELEASE", "3"), ("__ATOMIC_ACQ_REL", "4"), ("__ATOMIC_SEQ_CST", "5"),
   ("__MEMORY_SCOPE_SYSTEM", "0"), ("__MEMORY_SCOPE_DEVICE", "1"), ("__MEMORY_SCOPE_WRKGRP", "2"),
   ("__MEMORY_SCOPE_WVFRNT", "3"), ("__MEMORY_SCOPE_SINGLE", "4"),
   ("__OPENCL_MEMORY_SCOPE_WORK_ITEM", "0"), ("__OPENCL_MEMORY_SCOPE_WORK_GROUP", "1"),
   ("__OPENCL_MEMORY_SCOPE_DEVICE", "2"), ("__OPENCL_MEMORY_SCOPE_ALL_SVM_DEVICES", "3"),
   ("__OPENCL_MEMORY_SCOPE_SUB_GROUP", "4"), ("__FPCLASS_SNAN", "0x0001"),
   ("__FPCLASS_QNAN", "0x0002"), ("__FPCLASS_NEGINF", "0x0004"),
   ("__FPCLASS_NEGNORMAL", "0x0008"), ("__FPCLASS_NEGSUBNORMAL", "0x0010"),
   ("__FPCLASS_NEGZERO", "0x0020"), ("__FPCLASS_POSZERO", "0x0040"),
   ("__FPCLASS_POSSUBNORMAL", "0x0080"), ("__FPCLASS_POSNORMAL", "0x0100"),
   ("__FPCLASS_POSINF", "0x0200"), ("__PRAGMA_REDEFINE_EXTNAME", "1"),
   ("__VERSION__", "\"Clang 18.1.1\"")]

/-- The macros of the language mode: strictness, C++ and the encodings of literals. -/
def languageMacros (o : Options) (m : DataModel) : List (String × String) :=
  let msvc := o.target.isMSVC
  let cxx := o.language == .cxx
  (if !o.gnu && !o.msvcCompat then [("__STRICT_ANSI__", "1")] else []) ++
  (if !o.msvcCompat && cxx && o.cxxYear != 98 then [("__GXX_EXPERIMENTAL_CXX0X__", "1")] else []) ++
  (if o.objc then
    [("IBOutlet", "__attribute__((iboutlet))"),
     ("IBOutletCollection(ClassName)", "__attribute__((iboutletcollection(ClassName)))"),
     ("IBAction", "void)__attribute__((ibaction)"), ("IBInspectable", ""), ("IB_DESIGNABLE", "")]
   else []) ++
  [("__CONSTANT_CFSTRINGS__", "1")] ++
  (if o.objc then [("OBJC_NEW_PROPERTIES", "1")] else []) ++
  (if cxx then
    (if msvc then [] else [("__EXCEPTIONS", "1"), ("__GXX_RTTI", "1")]) ++
    (if msvc then [("__SEH__", "1")] else []) ++
    [("__DEPRECATED", "1")] ++ (if msvc then [] else [("__private_extern__", "extern")])
   else if msvc then [("__SEH__", "1")] else []) ++
  [("__clang_literal_encoding__", "\"UTF-8\""),
   ("__clang_wide_literal_encoding__",
    if m.width m.wcharType < 32 then "\"UTF-16\"" else "\"UTF-32\"")]

/-- The macros of the data model: byte order, widths, limits, sizes and the types that the
standard headers build on. -/
def dataModelMacros (m : DataModel) : List (String × String) :=
  [("__ORDER_LITTLE_ENDIAN__", "1234"), ("__ORDER_BIG_ENDIAN__", "4321"),
   ("__ORDER_PDP_ENDIAN__", "3412")] ++
  (if m.bigEndian then [("__BYTE_ORDER__", "__ORDER_BIG_ENDIAN__"), ("__BIG_ENDIAN__", "1")]
   else [("__BYTE_ORDER__", "__ORDER_LITTLE_ENDIAN__"), ("__LITTLE_ENDIAN__", "1")]) ++
  (if m.pointerWidth == 64 && m.longWidth == 64 then [("_LP64", "1"), ("__LP64__", "1")] else []) ++
  (if m.pointerWidth == 32 && m.longWidth == 32 then [("_ILP32", "1"), ("__ILP32__", "1")] else []) ++
  [("__CHAR_BIT__", "8"), ("__BOOL_WIDTH__", "8"), ("__SHRT_WIDTH__", "16"),
   ("__INT_WIDTH__", "32"), ("__LONG_WIDTH__", toString m.longWidth), ("__LLONG_WIDTH__", "64"),
   ("__BITINT_MAXWIDTH__", "8388608"), ("__SCHAR_MAX__", m.maxText .signedChar),
   ("__SHRT_MAX__", m.maxText .short), ("__INT_MAX__", m.maxText .int),
   ("__LONG_MAX__", m.maxText .long), ("__LONG_LONG_MAX__", m.maxText .longLong)] ++
  sizeAndWidth m "__WCHAR" m.wcharType ++ sizeAndWidth m "__WINT" m.wintType ++
  sizeAndWidth m "__INTMAX" m.intmaxType ++ sizeAndWidth m "__SIZE" m.sizeType ++
  sizeAndWidth m "__UINTMAX" (DataModel.unsignedOf m.intmaxType) ++
  sizeAndWidth m "__PTRDIFF" m.ptrdiffType ++ sizeAndWidth m "__INTPTR" m.ptrdiffType ++
  sizeAndWidth m "__UINTPTR" (DataModel.unsignedOf m.ptrdiffType) ++
  [("__SIZEOF_DOUBLE__", "8"), ("__SIZEOF_FLOAT__", "4"), ("__SIZEOF_INT__", "4"),
   ("__SIZEOF_LONG__", toString (m.longWidth / 8)),
   ("__SIZEOF_LONG_DOUBLE__", toString (m.longDoubleWidth / 8)), ("__SIZEOF_LONG_LONG__", "8"),
   ("__SIZEOF_POINTER__", toString (m.pointerWidth / 8)), ("__SIZEOF_SHORT__", "2"),
   ("__SIZEOF_PTRDIFF_T__", toString (m.pointerWidth / 8)),
   ("__SIZEOF_SIZE_T__", toString (m.pointerWidth / 8)),
   ("__SIZEOF_WCHAR_T__", toString (m.width m.wcharType / 8)),
   ("__SIZEOF_WINT_T__", toString (m.width m.wintType / 8))] ++
  (if m.hasInt128 then [("__SIZEOF_INT128__", "16")] else []) ++
  let uintmax := DataModel.unsignedOf m.intmaxType
  let uintptr := DataModel.unsignedOf m.ptrdiffType
  [("__INTMAX_TYPE__", m.intmaxType.spelling)] ++ formatMacros "__INTMAX" m.intmaxType ++
  [("__INTMAX_C_SUFFIX__", m.intmaxType.suffix), ("__UINTMAX_TYPE__", uintmax.spelling)] ++
  formatMacros "__UINTMAX" uintmax ++ [("__UINTMAX_C_SUFFIX__", uintmax.suffix),
   ("__PTRDIFF_TYPE__", m.ptrdiffType.spelling)] ++ formatMacros "__PTRDIFF" m.ptrdiffType ++
  [("__INTPTR_TYPE__", m.ptrdiffType.spelling)] ++ formatMacros "__INTPTR" m.ptrdiffType ++
  [("__SIZE_TYPE__", m.sizeType.spelling)] ++ formatMacros "__SIZE" m.sizeType ++
  [("__WCHAR_TYPE__", m.wcharType.spelling), ("__WINT_TYPE__", m.wintType.spelling)] ++
  sizeAndWidth m "__SIG_ATOMIC" .int ++
  [("__CHAR16_TYPE__", "unsigned short"), ("__CHAR32_TYPE__", "unsigned int"),
   ("__UINTPTR_TYPE__", uintptr.spelling)] ++ formatMacros "__UINTPTR" uintptr

/-- The alignment in bytes of the most aligned type of the target. -/
def Target.biggestAlignment (t : Target) : Nat :=
  match t.arch with
  | .arm | .armeb | .thumb | .thumbeb | .mips | .mipsel | .sparc | .sparcel | .systemz
  | .hexagon | .bpfel | .bpfeb => 8
  | _ => 16

/-- The macros of the floating-point types and of the integer types of `<stdint.h>`. -/
def numericMacros (o : Options) (m : DataModel) : List (String × String) :=
  floatMacros "FLT16" halfFormat "F16" ++ floatMacros "FLT" singleFormat "F" ++
  floatMacros "DBL" doubleFormat "" ++
  floatMacros "LDBL" m.longDoubleFormat.properties "L" ++
  [("__POINTER_WIDTH__", toString m.pointerWidth),
   ("__BIGGEST_ALIGNMENT__", toString o.target.biggestAlignment)] ++
  (if m.wcharType.signed then [] else [("__WCHAR_UNSIGNED__", "1")]) ++
  (if m.wintType.signed then [] else [("__WINT_UNSIGNED__", "1")]) ++
  exactWidthMacros m .signedChar ++ exactWidthMacros m .short ++ exactWidthMacros m .int ++
  exactWidthMacros m m.int64Type ++
  exactWidthMacros m .unsignedChar ++ [exactWidthMax m .unsignedChar, exactWidthMax m .signedChar] ++
  exactWidthMacros m .unsignedShort ++ [exactWidthMax m .unsignedShort, exactWidthMax m .short] ++
  exactWidthMacros m .unsignedInt ++ [exactWidthMax m .unsignedInt, exactWidthMax m .int] ++
  exactWidthMacros m (DataModel.unsignedOf m.int64Type) ++
  [exactWidthMax m (DataModel.unsignedOf m.int64Type), exactWidthMax m m.int64Type] ++
  ([8, 16, 32, 64].flatMap fun b => leastWidthMacros m "LEAST" b true ++ leastWidthMacros m "LEAST" b false) ++
  ([8, 16, 32, 64].flatMap fun b => leastWidthMacros m "FAST" b true ++ leastWidthMacros m "FAST" b false)

/-- The level of position independence, with whether the code is of an executable: by default
executables on Linux and OpenBSD are independent of their position, and code on Apple's
systems and on 64-bit Windows is. -/
def Options.positionIndependence (o : Options) : Option (Nat × Bool) :=
  match o.pic with
  | some p => p
  | none =>
    let t := o.target
    if t.isWindows then none
    else if t.os == .linux || t.os == .openbsd then some (2, true)
    else if t.isDarwin || t.isMips && t.pointerSize == 8 then some (2, false)
    else none

/-- The macros of the environment of the code: inlining, atomics, mathematics and position
independence. -/
def environmentMacros (o : Options) (m : DataModel) : List (String × String) :=
  let msvc := o.msvcCompat
  let lockFree (pre : String) : List (String × String) :=
    [("BOOL", 8), ("CHAR", 8), ("CHAR16_T", 16), ("CHAR32_T", 32), ("WCHAR_T", m.width m.wcharType),
     ("SHORT", 16), ("INT", 32), ("LONG", m.longWidth), ("LLONG", 64),
     ("POINTER", m.pointerWidth)].map fun (n, bits) =>
      (pre ++ n ++ "_LOCK_FREE",
       lockFreeValue (bits ≤ m.atomicInlineWidth && !(n == "LLONG" && m.weakLongLong)))
  [("__USER_LABEL_PREFIX__",
    if o.target.isDarwin || (o.target.isWindows && o.target.arch == .x86) then "_" else ""),
   ("__FINITE_MATH_ONLY__", if o.finiteMathOnly then "1" else "0")] ++
  (if o.optimizing then [("__OPTIMIZE__", "1")] else []) ++
  (if o.optimizingSize then [("__OPTIMIZE_SIZE__", "1")] else []) ++
  (if o.fastMathOn then [("__FAST_MATH__", "1")] else []) ++
  (if msvc then [] else
    [(if o.standard == .c89 && o.language == .c then "__GNUC_GNU_INLINE__"
      else if o.language == .cxx then "__GNUC_GNU_INLINE__" else "__GNUC_STDC_INLINE__", "1"),
     ("__GCC_ATOMIC_TEST_AND_SET_TRUEVAL", "1")]) ++
  lockFree "__CLANG_ATOMIC_" ++ (if msvc then [] else lockFree "__GCC_ATOMIC_") ++
  (if o.optimizing && !o.noInline then [] else [("__NO_INLINE__", "1")]) ++
  (if o.mathErrnoOn then [] else [("__NO_MATH_ERRNO__", "1")]) ++
  (match o.positionIndependence with
   | some (level, executable) =>
     [("__PIC__", toString level), ("__pic__", toString level)] ++
     (if executable then [("__PIE__", toString level), ("__pie__", toString level)] else [])
   | none => []) ++
  [("__FLT_RADIX__", "2"), ("__DECIMAL_DIG__", "__LDBL_DECIMAL_DIG__")] ++
  (match o.stackProtector with
   | 1 => [("__SSP__", "1")]
   | 2 => [("__SSP_STRONG__", "2")]
   | 3 => [("__SSP_ALL__", "3")]
   | _ => []) ++
  [("__OBJC_BOOL_IS_BOOL", if o.target.isDarwin && o.target.isAArch64 then "1" else "0")] ++
  (if o.language == .cxx && o.gnu && m.hasInt128 then
    [("__GLIBCXX_TYPE_INT_N_0", "__int128"), ("__GLIBCXX_BITSIZE_INT_N_0", "128")] else []) ++
  (if o.openmp then [("_OPENMP", "202011")] else []) ++
  (if o.target.isELF then [("__ELF__", "1")] else [])

/-- The macros that say which operations of `__sync` work on objects of up to a width in
bits. -/
def syncMacros (widths : List Nat) : List (String × String) :=
  widths.map fun w => ("__GCC_HAVE_SYNC_COMPARE_AND_SWAP_" ++ toString (w / 8), "1")

/-- The levels of the vector extensions of x86, each of which brings those below it. -/
def x86VectorLevels : List (String × Nat) :=
  [("sse", 1), ("sse2", 2), ("sse3", 3), ("ssse3", 4), ("sse4.1", 5), ("sse4.2", 6),
   ("sse4", 6), ("avx", 7), ("avx2", 8), ("avx512f", 9)]

/-- The level of the vector extensions of x86 that the options leave: the processor's, SSE2,
raised by each extension asked for and lowered below each one refused, in order. -/
def Options.x86VectorLevel (o : Options) : Nat :=
  o.targetFeatures.foldl (fun level (f, on) =>
    match x86VectorLevels.find? (·.1 == f) with
    | some (_, l) => if on then max level l else min level (l - 1)
    | none => level) 2

/-- Whether the options ask for an extension of x86 that no level brings, or refuse it. -/
def Options.x86Feature (o : Options) (name : String) (default : Bool) : Bool :=
  o.targetFeatures.foldl (fun on (f, enabled) => if f == name then enabled else on) default

/-- The macros of the vector and other extensions of the x86 processor. -/
def x86FeatureMacros (o : Options) : List (String × String) :=
  let level := o.x86VectorLevel
  let sse42 := level ≥ 6
  let popcnt := o.x86Feature "popcnt" sse42
  let fma := o.x86Feature "fma" false && level ≥ 7
  let f16c := o.x86Feature "f16c" false && level ≥ 7
  let xsave := o.x86Feature "xsave" (level ≥ 7)
  let crc32 := o.x86Feature "crc32" sse42
  let mmx := o.x86Feature "mmx" true
  (if o.x86Feature "aes" false && level ≥ 2 then [("__AES__", "1")] else []) ++
  (if o.x86Feature "pclmul" false && level ≥ 2 then [("__PCLMUL__", "1")] else []) ++
  (if o.x86Feature "lzcnt" false then [("__LZCNT__", "1")] else []) ++
  (if o.x86Feature "bmi" false then [("__BMI__", "1")] else []) ++
  (if o.x86Feature "bmi2" false then [("__BMI2__", "1")] else []) ++
  (if popcnt then [("__POPCNT__", "1")] else []) ++
  (if o.x86Feature "movbe" false then [("__MOVBE__", "1")] else []) ++
  (if fma then [("__FMA__", "1")] else []) ++
  (if f16c then [("__F16C__", "1")] else []) ++
  [("__FXSR__", "1")] ++
  (if xsave then [("__XSAVE__", "1")] else []) ++
  (if crc32 then [("__CRC32__", "1")] else []) ++
  ([("__AVX512F__", 9), ("__AVX2__", 8), ("__AVX__", 7), ("__SSE4_2__", 6), ("__SSE4_1__", 5),
    ("__SSSE3__", 4), ("__SSE3__", 3)].filterMap fun (n, l) =>
      if level ≥ l then some (n, "1") else none) ++
  (if level ≥ 2 then [("__SSE2__", "1"), ("__SSE2_MATH__", "1")] else []) ++
  (if level ≥ 1 then [("__SSE__", "1"), ("__SSE_MATH__", "1")] else []) ++
  (if o.microsoft && o.target.arch == .x86 then
    [("_M_IX86_FP", if level ≥ 2 then "2" else if level == 1 then "1" else "0")] else []) ++
  (if mmx then [("__MMX__", "1")] else [])

/-- The macros of an x86 processor. -/
def x86Macros (o : Options) (m : DataModel) : List (String × String) :=
  let t := o.target
  [("__GCC_ASM_FLAG_OUTPUTS__", "1"), ("__code_model_small__", "1")] ++
  (if t.arch == .x86_64 then
    [("__amd64__", "1"), ("__amd64", "1"), ("__x86_64", "1"), ("__x86_64__", "1")]
   else standardNames o.gnu "i386") ++
  [("__SEG_GS", "1"), ("__SEG_FS", "1"), ("__seg_gs", "__attribute__((address_space(256)))"),
   ("__seg_fs", "__attribute__((address_space(257)))")] ++
  (if t.arch == .x86_64 then [("__k8", "1"), ("__k8__", "1"), ("__tune_k8__", "1")]
   else [("__pentium4", "1"), ("__pentium4__", "1"), ("__tune_pentium4__", "1")]) ++
  [("__REGISTER_PREFIX__", ""), ("__NO_MATH_INLINES", "1")] ++ x86FeatureMacros o ++
  syncMacros [8, 16, 32, 64] ++
  (if o.x86Feature "cx16" false && t.arch == .x86_64 then syncMacros [128] else []) ++
  (if m.hasFloat128 then [("__SIZEOF_FLOAT128__", "16")] else [])

/-- The version of the Arm architecture, from the version part of the processor name, and the
profile letter it names; the bare families stand for version 4 with Thumb. -/
def armArchitecture (t : Target) : Nat × String :=
  let v := (t.subArch.drop 1).toString
  let digits := v.takeWhile Char.isDigit
  match digits.toString.toNat? with
  | some n =>
    let rest := (v.drop digits.toString.length).toString
    (n, if rest.isEmpty && n ≥ 7 then "A" else rest.toUpper)
  | none => (4, "T")

/-- The macros of a 64-bit Arm processor. -/
def aarch64Macros (o : Options) (m : DataModel) : List (String × String) :=
  let t := o.target
  (if m.bigEndian then [("__AARCH64EB__", "1"), ("__AARCH_BIG_ENDIAN", "1"),
      ("__ARM_BIG_ENDIAN", "1")]
   else [("__AARCH64EL__", "1")]) ++
  [("__aarch64__", "1"), ("__GCC_ASM_FLAG_OUTPUTS__", "1"), ("__AARCH64_CMODEL_SMALL__", "1"),
   ("__ARM_ACLE", "200"), ("__ARM_ARCH", "8"), ("__ARM_ARCH_PROFILE", "'A'"),
   ("__ARM_64BIT_STATE", "1"), ("__ARM_PCS_AAPCS64", "1"), ("__ARM_ARCH_ISA_A64", "1"),
   ("__ARM_FEATURE_CLZ", "1"), ("__ARM_FEATURE_FMA", "1"), ("__ARM_FEATURE_LDREX", "0xF"),
   ("__ARM_FEATURE_IDIV", "1"), ("__ARM_FEATURE_DIV", "1"),
   ("__ARM_FEATURE_NUMERIC_MAXMIN", "1"), ("__ARM_FEATURE_DIRECTED_ROUNDING", "1"),
   ("__ARM_ALIGN_MAX_STACK_PWR", "4"), ("__ARM_STATE_ZA", "1"), ("__ARM_STATE_ZT0", "1"),
   ("__ARM_FP", "0xE"), ("__ARM_FP16_FORMAT_IEEE", "1"), ("__ARM_FP16_ARGS", "1"),
   ("__ARM_SIZEOF_WCHAR_T", toString (m.width m.wcharType / 8)),
   ("__ARM_SIZEOF_MINIMAL_ENUM", if o.shortEnums then "1" else "4"), ("__ARM_NEON", "1"),
   ("__ARM_NEON_FP", "0xE"), ("__ARM_FEATURE_UNALIGNED", "1")] ++
  syncMacros [8, 16, 32, 64] ++
  (if t.isDarwin then
    [("__AARCH64_SIMD__", "1"), ("__ARM64_ARCH_8__", "1"), ("__ARM_NEON__", "1"),
     ("__REGISTER_PREFIX__", ""), ("__arm64", "1"), ("__arm64__", "1")]
   else []) ++
  (if t.isWindows then [("_M_ARM64", "1")] else [])

/-- The macros of a 32-bit Arm processor. -/
def armMacros (o : Options) (m : DataModel) : List (String × String) :=
  let t := o.target
  let (version, profile) := armArchitecture t
  let thumb := t.arch == .thumb || t.arch == .thumbeb
  let thumb2 := version ≥ 7 || (version == 6 && profile == "T2")
  let aapcs := t.isAAPCS
  let hardFloat := t.environment == .gnueabihf || t.environment == .musleabihf ||
    t.environment == .eabihf || t.isWindows || t.isDarwin
  (if m.bigEndian then [("__ARMEB__", "1"), ("__ARM_BIG_ENDIAN", "1")]
   else [("__ARMEL__", "1")]) ++
  [("__arm", "1"), ("__arm__", "1"), ("__REGISTER_PREFIX__", ""),
   ("__ARM_ARCH_" ++ toString version ++ profile ++ "__", "1"), ("__ARM_ARCH", toString version)] ++
  (if profile != "M" then [("__ARM_ARCH_ISA_ARM", "1")] else []) ++
  [("__ARM_ARCH_ISA_THUMB", if thumb2 then "2" else "1"), ("__ARM_32BIT_STATE", "1")] ++
  (if ["A", "R", "M"].contains profile then [("__ARM_ARCH_PROFILE", "'" ++ profile ++ "'")]
   else []) ++
  (if version ≥ 6 then [("__ARM_FEATURE_LDREX", if version ≥ 7 then "0xF" else "0x4")] else []) ++
  (if version ≥ 5 then [("__ARM_FEATURE_CLZ", "1")] else []) ++
  (if hardFloat && version ≥ 7 then [("__ARM_FP", "0xC")] else []) ++
  [("__ARM_ACLE", "200")] ++
  (if 5 ≤ version && version ≤ 8 && !t.isWindows then [("__THUMB_INTERWORK__", "1")] else []) ++
  (if aapcs then
    (if t.isDarwin || t.isWindows then [] else [("__ARM_EABI__", "1")]) ++ [("__ARM_PCS", "1")]
   else []) ++
  (if hardFloat then [("__ARM_PCS_VFP", "1")] else []) ++
  (if thumb then [("__THUMBEL__", "1"), ("__thumb__", "1")] ++
     (if thumb2 then [("__thumb2__", "1")] else [])
   else []) ++
  [("__APCS_32__", "1")] ++
  (if hardFloat then [("__VFP_FP__", "1")] else []) ++
  (if hardFloat && version ≥ 7 then [("__ARM_NEON__", "1"), ("__ARM_NEON", "1")] else []) ++
  [("__ARM_SIZEOF_WCHAR_T", toString (m.width m.wcharType / 8)),
   ("__ARM_SIZEOF_MINIMAL_ENUM", if o.shortEnums then "1" else "4")] ++
  syncMacros (if version ≥ 7 then [8, 16, 32, 64] else if version == 6 then [8, 16, 32] else [])

/-- The macros of a MIPS processor. -/
def mipsMacros (o : Options) (m : DataModel) : List (String × String) :=
  let t := o.target
  let o32 := t.isMipsO32
  (if m.bigEndian then standardNames o.gnu "MIPSEB" ++ [("_MIPSEB", "1")]
   else standardNames o.gnu "MIPSEL" ++ [("_MIPSEL", "1")]) ++
  [("__mips__", "1"), ("_mips", "1")] ++ (if o.gnu then [("mips", "1")] else []) ++
  (if o32 then [("__mips", "32"), ("_MIPS_ISA", "_MIPS_ISA_MIPS32")]
   else [("__mips", "64"), ("__mips64", "1"), ("__mips64__", "1"),
         ("_MIPS_ISA", "_MIPS_ISA_MIPS64")]) ++
  [("__mips_isa_rev", if t.subArch == "r6" then "6" else "2")] ++
  (if o32 then [("__mips_o32", "1"), ("_ABIO32", "1"), ("_MIPS_SIM", "_ABIO32")]
   else if t.isMipsN32 then [("__mips_n32", "1"), ("_ABIN32", "2"), ("_MIPS_SIM", "_ABIN32")]
   else [("__mips_n64", "1"), ("_ABI64", "3"), ("_MIPS_SIM", "_ABI64")]) ++
  [("__mips_abicalls", "1"), ("__REGISTER_PREFIX__", ""), ("__mips_hard_float", "1"),
   ("__mips_fpr", if o32 then "32" else "64"),
   ("_MIPS_SZPTR", toString m.pointerWidth), ("_MIPS_SZINT", "32"),
   ("_MIPS_SZLONG", toString m.longWidth),
   ("_MIPS_ARCH", if o32 then "\"mips32r2\"" else "\"mips64r2\""),
   (if o32 then "_MIPS_ARCH_MIPS32R2" else "_MIPS_ARCH_MIPS64R2", "1")] ++
  syncMacros (if o32 then [8, 16, 32] else [8, 16, 32, 64])

/-- The macros of a PowerPC processor. -/
def powerPCMacros (o : Options) (m : DataModel) : List (String × String) :=
  let t := o.target
  let little := t.arch == .ppc64le || t.arch == .ppcle
  [("__ppc__", "1"), ("__PPC__", "1"), ("_ARCH_PPC", "1"), ("__powerpc__", "1"),
   ("__POWERPC__", "1")] ++
  (if m.pointerWidth == 64 then
    [("_ARCH_PPC64", "1"), ("__powerpc64__", "1"), ("__PPC64__", "1"), ("__ppc64__", "1")]
   else []) ++
  (if little then [("_LITTLE_ENDIAN", "1")]
   else if t.os == .netbsd || t.os == .openbsd then [] else [("_BIG_ENDIAN", "1")]) ++
  (if m.pointerWidth == 64 then [("_CALL_ELF", if little then "2" else "1")] else []) ++
  (if t.os == .linux && m.pointerWidth == 64 then [("_CALL_LINUX", "1")] else []) ++
  [("__NATURAL_ALIGNMENT__", "1"), ("__REGISTER_PREFIX__", "")] ++
  (if m.longDoubleWidth == 128 then
    [("__LONG_DOUBLE_128__", "1"), ("__LONGDOUBLE128", "1"), ("__LONG_DOUBLE_IBM128__", "1")]
   else []) ++
  (if little && m.pointerWidth == 64 then [("__STRUCT_PARM_ALIGN__", "16")] else []) ++
  syncMacros (if m.pointerWidth == 64 then [8, 16, 32, 64] else [8, 16, 32])

/-- The macros of a processor other than x86, Arm, MIPS and PowerPC. -/
def otherArchMacros (o : Options) : List (String × String) :=
  let t := o.target
  match t.arch with
  | .systemz =>
    [("__s390__", "1"), ("__s390x__", "1"), ("__zarch__", "1"), ("__LONG_DOUBLE_128__", "1"),
     ("__ARCH__", "8")] ++ syncMacros [8, 16, 32, 64]
  | .sparc | .sparcel =>
    standardNames o.gnu "sparc" ++ [("__REGISTER_PREFIX__", "")] ++
    (if t.os == .solaris then [("__sparcv8", "1")] else [("__sparcv8", "1"), ("__sparcv8__", "1")]) ++
    syncMacros [8, 16, 32, 64]
  | .sparcv9 =>
    standardNames o.gnu "sparc" ++ [("__REGISTER_PREFIX__", ""), ("__sparcv9", "1"),
      ("__arch64__", "1")] ++
    (if t.os == .solaris then [] else
      [("__sparc64__", "1"), ("__sparc_v9__", "1"), ("__sparcv9__", "1")]) ++
    syncMacros [8, 16, 32, 64]
  | .riscv32 | .riscv64 =>
    let wide := t.arch == .riscv64
    [("__riscv", "1"), ("__riscv_xlen", if wide then "64" else "32"),
     ("__riscv_cmodel_medlow", "1"), ("__riscv_float_abi_double", "1"),
     ("__riscv_arch_test", "1"), ("__riscv_a", "2001000"), ("__riscv_c", "2000000"),
     ("__riscv_d", "2002000"), ("__riscv_f", "2002000"), ("__riscv_i", "2001000"),
     ("__riscv_m", "2000000"), ("__riscv_zicsr", "2000000"), ("__riscv_zifencei", "2000000"),
     ("__riscv_mul", "1"), ("__riscv_div", "1"), ("__riscv_muldiv", "1"),
     ("__riscv_atomic", "1")] ++
    syncMacros (if wide then [8, 16, 32, 64] else [8, 16, 32]) ++
    [("__riscv_flen", "64"), ("__riscv_fdiv", "1"), ("__riscv_fsqrt", "1"),
     ("__riscv_compressed", "1")]
  | .wasm32 | .wasm64 =>
    let name := if t.arch == .wasm64 then "wasm64" else "wasm32"
    [("__wasm", "1"), ("__wasm__", "1"), ("__wasm_sign_ext__", "1"),
     ("__wasm_mutable_globals__", "1"), ("__" ++ name, "1"), ("__" ++ name ++ "__", "1")]
  | .loongarch32 | .loongarch64 =>
    let wide := t.arch == .loongarch64
    [("__loongarch__", "1"), ("__loongarch_grlen", if wide then "64" else "32")] ++
    (if wide then [("__loongarch64", "1")] else []) ++
    [("__loongarch_frlen", "64"),
     ("__loongarch_arch", if wide then "\"la64v1.0\"" else "\"loongarch32\"")] ++
    (if wide then [("__loongarch_lp64", "1")] else []) ++
    [("__loongarch_hard_float", "1"), ("__loongarch_double_float", "1")] ++
    syncMacros (if wide then [8, 16, 32, 64] else [8, 16, 32])
  | .hexagon =>
    [("__qdsp6__", "1"), ("__hexagon__", "1"), ("__HEXAGON_V60__", "1"),
     ("__HEXAGON_ARCH__", "60"), ("__QDSP6_V60__", "1"), ("__QDSP6_ARCH__", "60")]
  | .bpfel | .bpfeb => [("__bpf__", "1"), ("__BPF__", "1")]
  | _ => []

/-- The macros of the processor. -/
def archMacros (o : Options) (m : DataModel) : List (String × String) :=
  let t := o.target
  if t.isX86 then x86Macros o m
  else if t.isAArch64 then aarch64Macros o m
  else if t.isArm32 then armMacros o m
  else if t.isMips then mipsMacros o m
  else if t.isPowerPC then powerPCMacros o m
  else otherArchMacros o

/-- The macros of Cygwin and MinGW: `__declspec` as an attribute, and the calling conventions
as macros when Microsoft's extensions do not make them keywords. -/
def cygMingMacros (o : Options) : List (String × String) :=
  (if o.declspecKeyword then [("__declspec", "__declspec")]
   else [("__declspec(a)", "__attribute__((a))")]) ++
  (if o.microsoft then [] else
    ["cdecl", "stdcall", "fastcall", "thiscall", "pascal"].flatMap fun cc =>
      let spelling := "__attribute__((__" ++ cc ++ "__))"
      [("_" ++ cc, spelling), ("__" ++ cc, spelling)])

/-- The macros of Microsoft's compiler on Windows. -/
def visualCMacros (o : Options) : List (String × String) :=
  let t := o.target
  let version := match t.environmentVersion.splitOn "." with
    | major :: minor :: _ =>
      match major.toNat?, minor.toNat? with
      | some a, some b => some (a * 100 + b)
      | _, _ => none
    | [major] => major.toNat?.map (· * 100)
    | [] => none
  let version := if t.environmentVersion.isEmpty then some 1933 else version
  (if o.typeModel.charUnsigned then [("_CHAR_UNSIGNED", "1")] else []) ++
  [("_M_FP_PRECISE", "1")] ++
  (match version with
   | some v =>
     [("_MSC_VER", toString v), ("_MSC_FULL_VER", toString (v * 100000)), ("_MSC_BUILD", "1"),
      ("_HAS_CHAR16_T_LANGUAGE_SUPPORT", "1")]
   | none => []) ++
  (if o.microsoft then [("_MSC_EXTENSIONS", "1")] else []) ++
  [("_INTEGRAL_MAX_BITS", "64"), ("__STDC_NO_THREADS__", "1"),
   ("_MSVC_EXECUTION_CHARACTER_SET", "65001")]

/-- The macros of the system. -/
def osMacros (o : Options) (m : DataModel) : List (String × String) :=
  let t := o.target
  let float128 := if m.hasFloat128 then [("__FLOAT128__", "1")] else []
  let unix := standardNames o.gnu "unix"
  let cxxSource := if o.language == .cxx then [("_GNU_SOURCE", "1")] else []
  let reentrant := if o.pthread then [("_REENTRANT", "1")] else []
  match t.os with
  | .linux =>
    unix ++ standardNames o.gnu "linux" ++
    (if t.environment == .android then [("__ANDROID__", "1")] else [("__gnu_linux__", "1")]) ++
    reentrant ++ cxxSource ++ float128
  | .windows =>
    if t.isCygwin then
      [("__CYGWIN__", "1"), (if t.arch == .x86_64 then "__CYGWIN64__" else "__CYGWIN32__", "1")] ++
      cygMingMacros o ++ unix ++ cxxSource
    else
      let wide := m.pointerWidth == 64
      [("_WIN32", "1")] ++ (if wide then [("_WIN64", "1")] else []) ++
      (if t.isMinGW then
        standardNames o.gnu "WIN32" ++ standardNames o.gnu "WINNT" ++
        (if wide then standardNames o.gnu "WIN64" ++ [("__MINGW64__", "1")] else []) ++
        [("__MSVCRT__", "1"), ("__MINGW32__", "1")] ++ cygMingMacros o
       else visualCMacros o) ++
      (if t.isMSVC && t.arch == .x86_64 then [("_M_X64", "100"), ("_M_AMD64", "100")]
       else if t.isMSVC && t.arch == .x86 then [("_M_IX86", "600"), ("_X86_", "1")]
       else [])
  | .macos | .darwin | .ios | .tvos | .watchos | .bridgeos | .driverkit | .xros =>
    [("__APPLE_CC__", "6000"), ("__APPLE__", "1"), ("__STDC_NO_THREADS__", "1")] ++
    (if o.objc then [] else
      [("__weak", "__attribute__((objc_gc(weak)))"), ("__strong", ""),
       ("__unsafe_unretained", "")]) ++
    [("__DYNAMIC__", "1")] ++ reentrant ++ [("__MACH__", "1")]
  | .freebsd =>
    [("__FreeBSD__", "8"), ("__FreeBSD_cc_version", "800001"), ("__KPRINTF_ATTRIBUTE__", "1")] ++
    unix ++ [("__STDC_MB_MIGHT_NEQ_WC__", "1")] ++ reentrant
  | .kfreebsd => unix ++ [("__FreeBSD_kernel__", "1"), ("__GLIBC__", "1")] ++ reentrant ++ cxxSource
  | .openbsd =>
    [("__OpenBSD__", "1")] ++ unix ++ reentrant ++ float128 ++
    (if o.language == .c && o.standard != .c89 && o.standard != .c99 then
      [("__STDC_NO_THREADS__", "1")] else [])
  | .netbsd => [("__NetBSD__", "1")] ++ unix ++ reentrant
  | .dragonfly =>
    [("__DragonFly__", "1"), ("__DragonFly_cc_version", "100001"),
     ("__KPRINTF_ATTRIBUTE__", "1"), ("__tune_i386__", "1")] ++ unix ++ reentrant
  | .solaris =>
    standardNames o.gnu "sun" ++ unix ++ [("__svr4__", "1"), ("__SVR4", "1"),
     ("_XOPEN_SOURCE", if o.language == .c && o.standard == .c89 then "500" else "600")] ++
    (if o.language == .cxx then [("__C99FEATURES__", "1"), ("_FILE_OFFSET_BITS", "64")] else []) ++
    [("_LARGEFILE_SOURCE", "1"), ("_LARGEFILE64_SOURCE", "1"), ("__EXTENSIONS__", "1")] ++
    reentrant ++ float128
  | .hurd =>
    unix ++ [("__GNU__", "1"), ("__gnu_hurd__", "1"), ("__MACH__", "1")] ++ reentrant ++ cxxSource
  | .haiku => [("__HAIKU__", "1")] ++ unix ++ reentrant
  | .fuchsia => [("__Fuchsia__", "1")] ++ reentrant ++ cxxSource
  | .wasi => [("__wasi__", "1")] ++ reentrant ++ cxxSource
  | .emscripten => unix ++ [("__EMSCRIPTEN__", "1")] ++ reentrant ++ cxxSource
  | _ => []

/-- The macros of the compiler, the language mode and the target, in the order they are
defined. -/
def compilerAndTargetMacros (o : Options) : List (String × String) :=
  let m := o.dataModel
  compilerMacros o ++ languageMacros o m ++ dataModelMacros m ++ numericMacros o m ++
    environmentMacros o m ++ archMacros o m ++ osMacros o m ++
    (if m.charUnsigned then [("__CHAR_UNSIGNED__", "1")] else [])

/-- The value of `__cplusplus` for a year of the C++ standard. -/
def cxxVersion : Nat → String
  | 98 => "199711L"
  | 11 => "201103L"
  | 14 => "201402L"
  | 20 => "202002L"
  | 23 => "202302L"
  | 26 => "202400L"
  | _ => "201703L"

/-- The macros of the language standard, which are defined even without the others. -/
def standardMacros (o : Options) : List (String × String) :=
  (if o.msvcCompat then [] else [("__STDC__", "1")]) ++
  [("__STDC_HOSTED__", if o.freestanding then "0" else "1")] ++
  (match o.language with
   | .c => match o.standard.version? with
     | some v => [("__STDC_VERSION__", v)]
     | none => []
   | .cxx =>
     [("__cplusplus", cxxVersion o.cxxYear),
      ("__STDCPP_DEFAULT_NEW_ALIGNMENT__", "16" ++ o.dataModel.sizeType.suffix),
      ("__STDCPP_THREADS__", "1")]) ++
  [("__STDC_UTF_16__", "1"), ("__STDC_UTF_32__", "1")] ++
  (if o.objc then [("__OBJC__", "1")] else []) ++
  (if o.assembler then [("__ASSEMBLER__", "1")] else []) ++
  (if o.cuda then [("__CUDA__", "1")] else [])

/-- The text read before a unit's main file. The lines that mark where a part begins or ends
are left blank, so that each line keeps its number. -/
def predefinedText (o : Options) : String :=
  let define (n b : String) := "#define " ++ n ++ " " ++ b
  let builtins := if o.predefines then compilerAndTargetMacros o else []
  let driver := if o.target.isWindows then [] else [define "__GCC_HAVE_DWARF2_CFI_ASM" "1"]
  let lines := [""] ++ builtins.map (fun (n, b) => define n b) ++
    (standardMacros o).map (fun (n, b) => define n b) ++ [""] ++
    o.defines.map (fun (n, b) => match b with
      | some body => define n body
      | none => "#undef " ++ n) ++ driver ++ [""] ++
    o.macroIncludes.flatMap (fun f => ["#__include_macros \"" ++ f ++ "\"", ""]) ++
    o.forcedIncludes.map (fun f => "#include \"" ++ f ++ "\"")
  "\n".intercalate lines ++ "\n"

end NativeBindings.Header
