import NativeBindings.Header.Options
import NativeBindings.Header.Features

/-!
# Keywords

The names that are keywords in C, by edition: those of every edition with the GNU spellings
of some (`__inline__`, `__typeof__`) and the front end's own (`__builtin_offsetof`); `inline`
and `restrict` from C99; `asm` and `typeof` with the GNU extensions; the new keywords of
C23; the calling conventions; and those that Microsoft's extensions bring. C++ has the
keywords of every C edition but `_Bool`, and its own by standard instead of those that only
C has. The preprocessor asks about them for `__is_identifier`, the reader everywhere.
-/

namespace NativeBindings.Header

/-- What decides which names are keywords: the edition, and the extensions that bring keywords
of their own. -/
structure KeywordSet where
  standard : Standard
  /-- The GNU keywords: `asm`, `typeof`, and `inline` before C99. -/
  gnu : Bool
  /-- The Microsoft keywords: the sized integers `__int8` to `__int64`, `__forceinline`, the
  pointer qualifiers and the calling conventions spelled with one underscore. -/
  microsoft : Bool := false
  /-- `__declspec`, which Microsoft's extensions or `-fdeclspec` bring. -/
  declspec : Bool := false
  /-- The keywords of Objective-C. -/
  objc : Bool := false
  /-- The year of the C++ standard when the unit is C++, whose keywords then replace those
  that only C has. -/
  cxxYear : Option Nat := none
deriving Inhabited

/-- The calling conventions, which every edition takes as keywords. -/
def callingConventions : List String :=
  ["__cdecl", "__stdcall", "__fastcall", "__thiscall", "__regcall", "__vectorcall", "__pascal"]

/-- The keywords of Microsoft's extensions. -/
def microsoftKeywords : List String :=
  ["__int8", "__int16", "__int32", "__int64", "__w64", "__ptr64", "__ptr32", "__sptr", "__uptr",
   "__forceinline", "__unaligned", "_cdecl", "_stdcall", "_fastcall", "_thiscall", "_vectorcall",
   "_inline", "__super", "__uuidof", "_uuidof", "__try", "__finally", "__leave", "__if_exists",
   "__if_not_exists", "__single_inheritance", "__multiple_inheritance", "__virtual_inheritance",
   "__interface", "__FUNCDNAME__", "__FUNCSIG__", "L__FUNCTION__", "L__FUNCSIG__",
   "__is_interface_class", "__is_sealed", "_asm", "_alignof", "__builtin_alignof", "_declspec",
   "__builtin_FUNCSIG"]

/-- The keywords that the front end reserves in every edition of C for its own extensions and
those of others: the queries of the place they are written at, the bit-precise and
nullability words, the fixed-point types, the keyword attributes of Arm, and a few traits. -/
def extensionKeywords : List String :=
  ["_ExtInt", "__objc_yes", "__objc_no", "_Accum", "_Fract", "_Sat", "__builtin_FILE",
   "__builtin_FILE_NAME", "__builtin_FUNCTION", "__builtin_LINE", "__builtin_COLUMN", "__ibm128",
   "__private_extern__", "__module_private__", "__is_destructible", "__is_nothrow_destructible",
   "_Nonnull", "_Nullable", "_Nullable_result", "_Null_unspecified", "__funcref",
   "__builtin_convertvector", "__builtin_bit_cast", "__builtin_available",
   "__builtin_omp_required_simd_align", "__arm_streaming", "__arm_streaming_compatible",
   "__arm_in", "__arm_out", "__arm_inout", "__arm_preserves", "__arm_new",
   "__arm_locally_streaming"]

/-- The keywords of Objective-C. -/
def objcKeywords : List String :=
  ["__bridge", "__bridge_transfer", "__bridge_retained", "__bridge_retain", "__covariant",
   "__contravariant", "__kindof"]

/-- The keywords of C++98. -/
def cxxKeywords : List String :=
  ["asm", "bool", "catch", "class", "const_cast", "delete", "dynamic_cast", "explicit", "export",
   "false", "friend", "inline", "mutable", "namespace", "new", "operator", "private", "protected",
   "public", "reinterpret_cast", "static_cast", "template", "this", "throw", "true", "try",
   "typename", "typeid", "using", "virtual", "wchar_t"]

/-- The keywords that C++11 adds. -/
def cxx11Keywords : List String :=
  ["alignas", "alignof", "char16_t", "char32_t", "constexpr", "decltype", "noexcept", "nullptr",
   "static_assert", "thread_local"]

/-- The keywords that C++20 adds. -/
def cxx20Keywords : List String :=
  ["char8_t", "concept", "requires", "consteval", "constinit", "co_await", "co_return", "co_yield"]

/-- Whether an identifier is a keyword. -/
def KeywordSet.contains (k : KeywordSet) (s : String) : Bool :=
  let always := ["auto", "break", "case", "char", "const", "continue", "default", "do", "double",
    "else", "enum", "extern", "float", "for", "goto", "if", "int", "long", "register", "return",
    "short", "signed", "sizeof", "static", "struct", "switch", "typedef", "union", "unsigned",
    "void", "volatile", "while", "_Bool", "_Complex", "_Imaginary", "_Alignas", "_Alignof",
    "_Atomic", "_Generic", "_Noreturn", "_Static_assert", "_Thread_local", "_BitInt",
    "__attribute", "__attribute__", "__asm", "__asm__", "__const", "__const__", "__volatile",
    "__volatile__", "__restrict", "__restrict__", "__inline", "__inline__", "__signed",
    "__signed__", "__typeof", "__typeof__", "__alignof", "__alignof__", "__extension__",
    "__builtin_va_arg", "__builtin_offsetof", "__builtin_types_compatible_p", "__builtin_choose_expr",
    "__real",
    "__real__", "__imag", "__imag__", "__label__", "__thread", "__int128", "__fp16", "_Float16",
    "__bf16", "__float128", "__auto_type", "__complex", "__complex__", "__func__",
    "__FUNCTION__", "__PRETTY_FUNCTION__", "_Decimal32", "_Decimal64", "_Decimal128"]
  let c99 := ["inline", "restrict"]
  let gnuOnly := ["asm", "typeof"]
  let c23Only := ["bool", "true", "false", "nullptr", "alignas", "alignof", "static_assert",
    "thread_local", "typeof", "typeof_unqual"]
  let common := (always.contains s && s != "_Bool") || callingConventions.contains s ||
    (extensionKeywords.contains s && !(k.cxxYear.isSome && ["_Accum", "_Fract", "_Sat"].contains s)) ||
    (k.microsoft && microsoftKeywords.contains s) || (k.declspec && s == "__declspec") ||
    (k.objc && objcKeywords.contains s)
  match k.cxxYear with
  | some year =>
    common || cxxKeywords.contains s ||
      (cxxSince year 11 && cxx11Keywords.contains s) || (cxxSince year 20 && cxx20Keywords.contains s) ||
      (k.gnu && s == "typeof")
  | none =>
    common || s == "_Bool" || (k.standard.atLeast99 && c99.contains s) ||
      (k.gnu && gnuOnly.contains s) || (k.gnu && s == "inline") ||
      (k.standard == .c23 && c23Only.contains s)

/-- The keywords that the options make. -/
def Options.keywordSet (o : Options) : KeywordSet :=
  { standard := o.declarationStandard, gnu := o.gnuKeywords.getD o.gnu, microsoft := o.microsoft,
    declspec := o.declspecKeyword, objc := o.objc,
    cxxYear := if o.language == .cxx then some o.cxxYear else none }

/-- The builtin functions that the options make known: those of the GNU and Microsoft
extensions when they are on, those of C++ in C++, and those of the processor. -/
def Options.builtinContext (o : Options) : BuiltinContext :=
  { gnu := o.gnu, microsoft := o.microsoft, cxx := o.language == .cxx,
    x86 := o.target.isX86, x86_64 := o.target.arch == .x86_64 }

/-- What the feature queries answer by, as the options make it. -/
def Options.featureContext (o : Options) : FeatureContext :=
  { isKeyword := o.keywordSet.contains, builtins := o.builtinContext, target := o.target,
    cxxYear := if o.language == .cxx then some o.cxxYear else none,
    c11 := [Standard.c11, .c17, .c23].contains o.standard, objc := o.objc, blocks := o.blocks,
    declspec := o.declspecKeyword, microsoft := o.microsoft,
    extensionsAreErrors := o.pedanticErrors }

end NativeBindings.Header
