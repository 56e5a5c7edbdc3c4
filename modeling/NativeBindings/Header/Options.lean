import NativeBindings.Header.DriverOption
import NativeBindings.Header.Target
import NativeBindings.Header.Token
import NativeBindings.Header.Warnings

/-!
# Front-end options

The command-line arguments that change how headers are read: the language (`-x`) and its
standard (`-std=`), the target (`--target=`, `-m32`, `-m64`), macros defined (`-D`) and
undefined (`-U`) before the first line, the directories searched for included files (`-iquote`,
`-I`, `-isystem`, `-idirafter`), files included before the main one (`-include`, and
`-imacros` for their macros alone), and how messages are reported (`-Werror`,
`-pedantic-errors`, `-ferror-limit=`). Each option with a value takes it joined (`-Idir`) or as
the next argument. Other arguments do not change the reading and are passed over; a standard
of the other language, or one that is not a standard at all, makes the reading fail.
-/

namespace NativeBindings.Header

/-- The editions of C. -/
inductive Standard where
  | c89
  | c99
  | c11
  | c17
  | c23
deriving DecidableEq, Inhabited, Repr

/-- The languages a header is read in. -/
inductive Language where
  | c
  | cxx
deriving DecidableEq, Inhabited, Repr

/-- What the compiler driver reads an input as: the language, and the dialect over it. -/
structure InputKind where
  language : Language
  /-- Objective-C, over C or C++. -/
  objc : Bool := false
  /-- Assembly that goes through the preprocessor, read as C. -/
  assembler : Bool := false
  /-- CUDA, over C++. -/
  cuda : Bool := false
  /-- A header, read on its own. -/
  header : Bool := false
deriving DecidableEq, Inhabited, Repr

/-- What the compiler driver reads an input as by the suffix of its name; none for an input it
does not compile, such as a file without a suffix, which it passes to the linker. -/
def InputKind.ofFileName? (name : String) : Option InputKind :=
  let base := (name.splitOn "/").getLast?.getD name
  match (base.splitOn ".").getLast? with
  | none => none
  | some ext =>
    if !base.contains '.' then none
    else if ext == "h" then some { language := .c, header := true }
    else if ["c", "i"].contains ext then some { language := .c }
    else if ["m", "mi"].contains ext then some { language := .c, objc := true }
    else if ext == "S" then some { language := .c, assembler := true }
    else if ["H", "hh", "hpp", "hxx"].contains ext then some { language := .cxx, header := true }
    else if ["C", "cc", "CC", "cp", "cpp", "CPP", "c++", "C++", "cxx", "CXX", "ii"].contains ext then
      some { language := .cxx }
    else if ["mm", "M", "mii"].contains ext then some { language := .cxx, objc := true }
    else if ["cu", "cui"].contains ext then some { language := .cxx, cuda := true }
    else none

/-- What a `-x` value reads the input as: `some none` for `none`, which leaves the choice to the
file name, and `none` for a language that is not read here. -/
def InputKind.ofName? (s : String) : Option (Option InputKind) :=
  if s == "none" then some none
  else if ["c", "cpp-output"].contains s then some (some { language := .c })
  else if s == "c-header" then some (some { language := .c, header := true })
  else if ["objective-c", "objective-c-cpp-output"].contains s then
    some (some { language := .c, objc := true })
  else if s == "objective-c-header" then some (some { language := .c, objc := true, header := true })
  else if s == "assembler-with-cpp" then some (some { language := .c, assembler := true })
  else if ["c++", "c++-cpp-output"].contains s then some (some { language := .cxx })
  else if s == "c++-header" then some (some { language := .cxx, header := true })
  else if ["objective-c++", "objective-c++-cpp-output"].contains s then
    some (some { language := .cxx, objc := true })
  else if s == "objective-c++-header" then some (some { language := .cxx, objc := true, header := true })
  else if s == "cuda" then some (some { language := .cxx, cuda := true })
  else none

/-- How headers are read. -/
structure Options where
  language : Language := .c
  /-- Objective-C over the language. -/
  objc : Bool := false
  /-- Assembly read through the preprocessor, as C. -/
  assembler : Bool := false
  /-- CUDA over C++, compiled for the device first. -/
  cuda : Bool := false
  /-- The main file is a header, read on its own. -/
  headerInput : Bool := false
  standard : Standard := .c17
  /-- The year of the C++ standard, when the language is C++. -/
  cxxYear : Nat := 17
  /-- GNU extensions on, as in the `gnu` standards. -/
  gnu : Bool := true
  target : Target := {}
  /-- Whether the macros of the compiler and the target are defined; `-undef` leaves them out. -/
  predefines : Bool := true
  /-- Macro definitions in order: a name with its body, or `none` to undefine it. -/
  defines : List (String × Option String) := []
  quoteDirs : List String := []
  angledDirs : List String := []
  systemDirs : List String := []
  afterDirs : List String := []
  forcedIncludes : List String := []
  /-- Files read before the main one for their macros alone. -/
  macroIncludes : List String := []
  /-- Trigraphs asked for or refused; by default they are on in the ISO standards. -/
  trigraphs : Option Bool := none
  /-- The `-W` options in order, each without its `-W`. -/
  warningFlags : List String := []
  /-- Whether all warnings are silenced (`-w`). -/
  warningsIgnored : Bool := false
  /-- Whether the warnings about extensions to the standard are on (`-pedantic`). -/
  pedantic : Bool := false
  /-- Whether the warnings about extensions to the standard are errors (`-pedantic-errors`). -/
  pedanticErrors : Bool := false
  /-- The number of errors after which the reading stops; `0` for no limit. -/
  errorLimit : Nat := 19
  /-- The complaints about the arguments themselves, in order. -/
  argumentErrors : List String := []
  /-- Plain `char` made unsigned (`-funsigned-char`) or signed (`-fsigned-char`); by default
  the target decides. -/
  unsignedChar : Option Bool := none
  /-- Every enum takes the smallest type that holds its values (`-fshort-enums`). -/
  shortEnums : Bool := false
  /-- `wchar_t` is `unsigned short` (`-fshort-wchar`). -/
  shortWchar : Bool := false
  /-- The keywords of GNU C asked for or refused (`-fgnu-keywords`, `-fno-gnu-keywords`); by
  default they come with the GNU editions. -/
  gnuKeywords : Option Bool := none
  /-- Microsoft's extensions asked for or refused (`-fms-extensions`); by default they come with
  the Windows targets. -/
  msExtensions : Option Bool := none
  /-- `__declspec` asked for or refused (`-fdeclspec`); by default it comes with Microsoft's
  extensions. -/
  declspec : Option Bool := none
  /-- Blocks, the closures written `^`, asked for (`-fblocks`). -/
  blocks : Bool := false
  /-- Compatibility with Microsoft's compiler asked for or refused (`-fms-compatibility`); by
  default it comes with the targets of that compiler. -/
  msCompatibility : Option Bool := none
  /-- The code runs without a hosted library (`-ffreestanding`). -/
  freestanding : Bool := false
  /-- The level of optimization (`-O`), as the option writes it: a digit, `s`, `z`, `g` or
  `fast`. -/
  optimize : String := "0"
  /-- Inlining is refused (`-fno-inline`). -/
  noInline : Bool := false
  /-- Fast mathematics asked for (`-ffast-math`). -/
  fastMath : Bool := false
  /-- Finite mathematics asked for or refused (`-ffinite-math-only`). -/
  finiteMath : Option Bool := none
  /-- Whether the mathematical functions set `errno` (`-fmath-errno`); by default the target
  decides. -/
  mathErrno : Option Bool := none
  /-- OpenMP asked for (`-fopenmp`). -/
  openmp : Bool := false
  /-- The protection of the stack: `0` none, `1` plain, `2` strong, `3` all. -/
  stackProtector : Nat := 0
  /-- The level of position independence and whether the code is of an executable, as
  `-fPIC` and its kin ask; `some none` when they refuse it, `none` when the target decides. -/
  pic : Option (Option (Nat × Bool)) := none
  /-- The extensions of the processor asked for (`-mavx2`) or refused (`-mno-sse`), in order. -/
  targetFeatures : List (String × Bool) := []
  /-- The largest alignment of a member of a record (`-fpack-struct=`). -/
  packStruct : Option Nat := none
  /-- Threads of POSIX asked for (`-pthread`). -/
  pthread : Bool := false
deriving Inhabited, Repr

/-- The edition whose rules of declarations hold. C++ reads the declarations of a header as
C23 does in all that is read here: `bool` and its kin are keywords, and an empty parameter list
declares no parameters. -/
def Options.declarationStandard (o : Options) : Standard :=
  if o.language == .cxx then .c23 else o.standard

/-- Whether the reading is compatible with Microsoft's compiler, as it is by default for the
targets of that compiler unless its extensions are refused. -/
def Options.msvcCompat (o : Options) : Bool :=
  o.msCompatibility.getD (o.target.isMSVC && o.msExtensions != some false)

/-- Whether Microsoft's extensions are on: by default on the targets of Microsoft's compiler,
and always where the reading is compatible with that compiler. -/
def Options.microsoft (o : Options) : Bool :=
  o.msvcCompat || o.msExtensions.getD o.target.isMSVC

/-- Whether `__declspec` is a keyword. -/
def Options.declspecKeyword (o : Options) : Bool := o.declspec.getD o.microsoft

/-- Whether the code is optimized. -/
def Options.optimizing (o : Options) : Bool := o.optimize != "0"

/-- Whether the code is optimized for its size. -/
def Options.optimizingSize (o : Options) : Bool := o.optimize == "s" || o.optimize == "z"

/-- Whether fast mathematics is on, as `-Ofast` also asks. -/
def Options.fastMathOn (o : Options) : Bool := o.fastMath || o.optimize == "fast"

/-- Whether mathematics may assume that no value is infinite or not a number. -/
def Options.finiteMathOnly (o : Options) : Bool := o.finiteMath.getD o.fastMathOn

/-- Whether the mathematical functions set `errno`: by default on the systems whose library
does so, which excludes Apple's, the BSDs, Microsoft's and WebAssembly's. -/
def Options.mathErrnoOn (o : Options) : Bool :=
  let t := o.target
  let byDefault := !(t.isDarwin || t.isMSVC || t.isWasm ||
    [OS.freebsd, .netbsd, .openbsd, .dragonfly, .fuchsia, .ps4, .ps5].contains t.os)
  o.mathErrno.getD (byDefault && !o.fastMathOn)

/-- The warning options. -/
def Options.warningOptions (o : Options) : WarningOptions :=
  { flags := o.warningFlags, pedantic := o.pedantic, pedanticErrors := o.pedanticErrors,
    ignoreAll := o.warningsIgnored }

/-- What the target and the options decide about the builtin types: the target's model, with
plain `char`, enums and `wchar_t` as the options make them. -/
def Options.typeModel (o : Options) : TypeModel :=
  let base := o.target.typeModel
  { base with charUnsigned := o.unsignedChar.getD base.charUnsigned, shortEnums := o.shortEnums,
              wcharType := if o.shortWchar then .unsignedShort else base.wcharType }

/-- The calling conventions that the target does not support, which are warned about and
dropped. -/
def Options.unsupportedConventions (o : Options) : List String := o.target.unsupportedConventions

/-- The standard of a `-std=` value, with whether GNU extensions are on. -/
def Standard.ofName? (s : String) : Option (Standard × Bool) :=
  match s with
  | "c89" | "c90" | "iso9899:1990" | "iso9899:199409" => some (.c89, false)
  | "gnu89" | "gnu90" => some (.c89, true)
  | "c99" | "c9x" | "iso9899:1999" | "iso9899:199x" => some (.c99, false)
  | "gnu99" | "gnu9x" => some (.c99, true)
  | "c11" | "c1x" | "iso9899:2011" | "iso9899:201x" => some (.c11, false)
  | "gnu11" | "gnu1x" => some (.c11, true)
  | "c17" | "c18" | "iso9899:2017" | "iso9899:2018" => some (.c17, false)
  | "gnu17" | "gnu18" => some (.c17, true)
  | "c2x" | "c23" | "iso9899:2024" => some (.c23, false)
  | "gnu2x" | "gnu23" => some (.c23, true)
  | _ => none

/-- The value of `__STDC_VERSION__`, if the standard has one. -/
def Standard.version? : Standard → Option String
  | .c89 => none
  | .c99 => some "199901L"
  | .c11 => some "201112L"
  | .c17 => some "201710L"
  | .c23 => some "202311L"

/-- Whether the standard is at least C99. -/
def Standard.atLeast99 (s : Standard) : Bool := s != .c89

/-- A `-D` value: `NAME` defines `NAME` as `1`, `NAME=BODY` as `BODY`. -/
def defineOf (s : String) : String × Option String :=
  match s.splitOn "=" with
  | [name] => (name, some "1")
  | name :: rest => (name, some ("=".intercalate rest))
  | [] => (s, some "1")

/-- The options that take a value, and how each one changes the options. -/
def valued : List (String × (Options → String → Options)) :=
  [("-iquote", fun o v => { o with quoteDirs := o.quoteDirs ++ [v] }),
   ("-isystem", fun o v => { o with systemDirs := o.systemDirs ++ [v] }),
   ("-idirafter", fun o v => { o with afterDirs := o.afterDirs ++ [v] }),
   ("-imacros", fun o v => { o with macroIncludes := o.macroIncludes ++ [v] }),
   ("-include", fun o v => { o with forcedIncludes := o.forcedIncludes ++ [v] }),
   ("-I", fun o v => { o with angledDirs := o.angledDirs ++ [v] }),
   ("-D", fun o v => { o with defines := o.defines ++ [defineOf v] }),
   ("-U", fun o v => { o with defines := o.defines ++ [(v, none)] })]

/-- The options that take the next argument as a value and change nothing here. -/
def passedOverWithValue : List String := ["-arch", "-o", "-Xclang", "-MF", "-MT"]

/-- Whether a C++ standard, named by its year as `cxxYear` holds it, is the one of year
`since` or a later one; C++98, which also stands for C++03, comes before all others. -/
def cxxSince (year since : Nat) : Bool := year != 98 && year ≥ since

/-- The C++ standard of a `-std=` value: its year, with whether GNU extensions are on. -/
def cxxStandardOf? (s : String) : Option (Nat × Bool) :=
  let (gnu, rest) :=
    if s.startsWith "gnu++" then (true, (s.drop 5).toString)
    else if s.startsWith "c++" then (false, (s.drop 3).toString)
    else (false, "")
  let year : Option Nat := match rest with
    | "98" | "03" => some 98
    | "11" | "0x" => some 11
    | "14" | "1y" => some 14
    | "17" | "1z" => some 17
    | "20" | "2a" => some 20
    | "23" | "2b" => some 23
    | "26" | "2c" => some 26
    | _ => none
  year.map (·, gnu)

/-- A warning option's effect on the options: `-w`, the pedantic options, and the `-W` options,
kept in order; `-W` alone is `-Wextra`. The options `-Wl,`, `-Wa,` and `-Wp,` pass their values
to other tools and are no warning options. -/
def warningOption? (o : Options) (a : String) : Option Options :=
  if a == "-w" then some { o with warningsIgnored := true }
  else if a == "-pedantic-errors" || a == "--pedantic-errors" then some { o with pedanticErrors := true }
  else if a == "-pedantic" || a == "--pedantic" then some { o with pedantic := true }
  else if a == "-W" then some { o with warningFlags := o.warningFlags ++ ["extra"] }
  else if a.startsWith "-W" && !(a.startsWith "-Wl," || a.startsWith "-Wa," || a.startsWith "-Wp,") then
    some { o with warningFlags := o.warningFlags ++ [(a.drop 2).toString] }
  else none

/-- What the arguments choose beside the options: the language given by `-x`, the triple of the
last `--target=`, the width of the last `-m32`, `-m64`, `-mx32` or `-m16`, and the language of
the last `-std=` value. -/
structure Choices where
  input : Option InputKind := none
  triple : Option String := none
  width : Option String := none
  standardOf : Option Language := none

/-- The target with the width that `-m32`, `-m64`, `-mx32` or `-m16` asks for: the 32-bit or
64-bit family of the processor, leaving the `x32` environments for their plain ones, or x86-64
with 32-bit pointers, or 32-bit x86 for 16-bit code. A processor without such a family is kept. -/
def Target.withWidth (t : Target) : String → Target
  | "64" =>
    match t.arch.variant64? with
    | some a =>
      { t.withArch a with environment := match t.environment with
        | .gnux32 => .gnu
        | .muslx32 => .musl
        | e => e }
    | none => t
  | "32" =>
    match t.arch.variant32? with
    | some a =>
      { t.withArch a with environment := match t.environment with
        | .gnux32 => .gnu
        | .muslx32 => .musl
        | e => e }
    | none => t
  | "x32" =>
    if t.arch.variant64? == some .x86_64 then
      { t.withArch .x86_64 with environment := if t.environment == .musl then .muslx32 else .gnux32 }
    else t
  | "16" =>
    if t.arch.variant32? == some .x86 then { t.withArch .x86 with environment := .code16 } else t
  | _ => t

/-- The extensions of the processor that `-m` and `-mno-` ask for or refuse. -/
def processorFeatures : List String :=
  ["sse", "sse2", "sse3", "ssse3", "sse4.1", "sse4.2", "sse4", "avx", "avx2", "avx512f", "mmx",
   "popcnt", "fma", "f16c", "xsave", "crc32", "aes", "pclmul", "lzcnt", "bmi", "bmi2", "movbe",
   "cx16"]

/-- The effect of an option of code generation that the predefined macros show: optimization,
mathematics, OpenMP, the protection of the stack, position independence, the extensions of the
processor and the packing of records. -/
def codeOption? (o : Options) (a : String) : Option Options :=
  match a with
  | "-ffreestanding" => some { o with freestanding := true }
  | "-fhosted" => some { o with freestanding := false }
  | "-fms-compatibility" => some { o with msCompatibility := some true }
  | "-fno-ms-compatibility" => some { o with msCompatibility := some false }
  | "-O" => some { o with optimize := "1" }
  | "-fno-inline" => some { o with noInline := true }
  | "-finline" => some { o with noInline := false }
  | "-ffast-math" => some { o with fastMath := true }
  | "-fno-fast-math" => some { o with fastMath := false }
  | "-ffinite-math-only" => some { o with finiteMath := some true }
  | "-fno-finite-math-only" => some { o with finiteMath := some false }
  | "-fmath-errno" => some { o with mathErrno := some true }
  | "-fno-math-errno" => some { o with mathErrno := some false }
  | "-fopenmp" => some { o with openmp := true }
  | "-fno-openmp" => some { o with openmp := false }
  | "-fstack-protector" => some { o with stackProtector := 1 }
  | "-fstack-protector-strong" => some { o with stackProtector := 2 }
  | "-fstack-protector-all" => some { o with stackProtector := 3 }
  | "-fno-stack-protector" => some { o with stackProtector := 0 }
  | "-fPIC" => some { o with pic := some (some (2, false)) }
  | "-fpic" => some { o with pic := some (some (1, false)) }
  | "-fPIE" => some { o with pic := some (some (2, true)) }
  | "-fpie" => some { o with pic := some (some (1, true)) }
  | "-fno-PIC" | "-fno-pic" | "-fno-PIE" | "-fno-pie" => some { o with pic := some none }
  | "-fpack-struct" => some { o with packStruct := some 1 }
  | "-fno-pack-struct" => some { o with packStruct := none }
  | "-pthread" => some { o with pthread := true }
  | "-no-pthread" => some { o with pthread := false }
  | _ =>
    if a.startsWith "-fopenmp=" then some { o with openmp := true }
    else if a.startsWith "-fpack-struct=" then
      some { o with packStruct := (a.drop 14).toString.toNat? }
    else if a.startsWith "-O" then
      let level := (a.drop 2).toString
      if level == "fast" || level == "s" || level == "z" || level == "g" then
        some { o with optimize := level }
      else if level.all Char.isDigit && !level.isEmpty then
        some { o with optimize := level }
      else none
    else if a.startsWith "-mno-" && processorFeatures.contains (a.drop 5).toString then
      let f := (a.drop 5).toString
      some { o with targetFeatures := o.targetFeatures ++ [(if f == "sse4" then "sse4.1" else f, false)] }
    else if a.startsWith "-m" && processorFeatures.contains (a.drop 2).toString then
      some { o with targetFeatures := o.targetFeatures ++ [((a.drop 2).toString, true)] }
    else none

/-- The errors of the compiler driver for a CUDA input where no CUDA installation is found:
once for each of the two compilations, host and device, and the device library once. -/
def cudaDriverErrors : List String :=
  let installation := "cannot find CUDA installation; provide its path via '--cuda-path', or " ++
    "pass '-nocudainc' to build without CUDA includes"
  [installation, "cannot find libdevice for sm_35; provide path to different CUDA installation " ++
    "via '--cuda-path', or pass '-nocudalib' to build without linking with libdevice", installation]

/-- Whether an argument that is no option names a file that the compiler would compile beside
the main file, by the extension of its name; the names of other files go to the linker, which
reading a header does not run. -/
def namesCompiledFile (a : String) : Bool :=
  let base := (a.splitOn "/").getLast?.getD a
  base.contains '.' &&
    ["c", "C", "h", "H", "i", "m", "M", "S", "s", "bc", "cc", "CC", "cl", "clcpp", "cp", "cu", "hh",
     "ii", "ll", "mi", "mm", "rs", "adb", "ads", "asm", "ast", "ccm", "cpp", "CPP", "c++", "C++",
     "cui", "cxx", "CXX", "F", "f", "F03", "f03", "F08", "f08", "F90", "f90", "F95", "f95", "for",
     "FOR", "fpp", "FPP", "hip", "hipi", "hpp", "hxx", "iim", "iih", "mii", "ifs", "pcm", "c++m",
     "cppm", "cxxm", "hlsl"].contains ((base.splitOn ".").getLast?.getD "")

/-- Reads the arguments given before the name of the main file; `none` when one names a
standard or a language that is not read here, or a standard of the other language, when one
names another file to compile, or when the file is not compiled at all. A `-x` language holds for the file; without one its name
decides. -/
def Options.ofArgs (args : List String) (file : String) : Option Options := do
  let (o, c) ← go args.length args {} {}
  let input ← c.input.orElse fun _ => InputKind.ofFileName? file
  let language := input.language
  if c.standardOf.any (· != language) then none
  let target ← match c.triple with
    | some triple => Target.ofTriple? triple
    | none => some {}
  let target := match c.width with
    | some w => target.withWidth w
    | none => target
  let argumentErrors := unknownArgumentErrors args ++ o.argumentErrors ++
    (if input.cuda then cudaDriverErrors else [])
  return { o with language, objc := input.objc, assembler := input.assembler, cuda := input.cuda,
                  headerInput := input.header, target, argumentErrors }
where
  go : Nat → List String → Options → Choices → Option (Options × Choices)
    | 0, _, o, c => some (o, c)
    | _, [], o, c => some (o, c)
    | fuel + 1, a :: rest, o, c =>
      if a.startsWith "-std=" || a.startsWith "--std=" then
        let name := (a.splitOn "=").drop 1 |> "=".intercalate
        match cxxStandardOf? name with
        | some (year, g) => go fuel rest { o with cxxYear := year, gnu := g } { c with standardOf := some .cxx }
        | none =>
          match Standard.ofName? name with
          | some (s, g) => go fuel rest { o with standard := s, gnu := g } { c with standardOf := some .c }
          | none => none
      else if a == "-ansi" then go fuel rest { o with standard := .c89, gnu := false } c
      else if a == "-trigraphs" || a == "-ftrigraphs" then go fuel rest { o with trigraphs := some true } c
      else if a == "-fno-trigraphs" then go fuel rest { o with trigraphs := some false } c
      else if a == "-undef" then go fuel rest { o with predefines := false } c
      else if a == "-funsigned-char" || a == "-fno-signed-char" then
        go fuel rest { o with unsignedChar := some true } c
      else if a == "-fsigned-char" || a == "-fno-unsigned-char" then
        go fuel rest { o with unsignedChar := some false } c
      else if a == "-fshort-enums" || a == "-fno-short-enums" then
        go fuel rest { o with shortEnums := a == "-fshort-enums" } c
      else if a == "-fshort-wchar" || a == "-fno-short-wchar" then
        go fuel rest { o with shortWchar := a == "-fshort-wchar" } c
      else if a == "-fgnu-keywords" || a == "-fno-gnu-keywords" then
        go fuel rest { o with gnuKeywords := some (a == "-fgnu-keywords") } c
      else if a == "-fms-extensions" || a == "-fno-ms-extensions" then
        go fuel rest { o with msExtensions := some (a == "-fms-extensions") } c
      else if a == "-fdeclspec" || a == "-fno-declspec" then
        go fuel rest { o with declspec := some (a == "-fdeclspec") } c
      else if a == "-fblocks" || a == "-fno-blocks" then
        go fuel rest { o with blocks := a == "-fblocks" } c
      else if ["-m32", "-m64", "-mx32", "-m16"].contains a then
        go fuel rest o { c with width := some (a.drop 2).toString }
      else if a.startsWith "--target=" then
        go fuel rest o { c with triple := some (a.drop 9).toString }
      else if a == "-target" then
        match rest with
        | v :: more => go fuel more o { c with triple := some v }
        | [] => some (o, c)
      else if let some o := codeOption? o a then go fuel rest o c
      else if a.startsWith "-ferror-limit=" then
        match (a.drop 14).toString.toNat? with
        | some n => go fuel rest { o with errorLimit := n } c
        | none => go fuel rest o c
      else if let some o := warningOption? o a then go fuel rest o c
      else if a == "-x" then
        match rest with
        | v :: more => do
          let chosen ← InputKind.ofName? v
          go fuel more o { c with input := chosen }
        | [] => some (o, c)
      else if a.startsWith "-x" then do
        let chosen ← InputKind.ofName? (a.drop 2).toString
        go fuel rest o { c with input := chosen }
      else
        match valued.find? (fun p => a.startsWith p.1) with
        | some (flag, apply) =>
          if a == flag then
            match rest with
            | v :: more => go fuel more (apply o v) c
            | [] => some (o, c)
          else go fuel rest (apply o (a.drop flag.length).toString) c
        | none =>
          if passedOverWithValue.contains a then go fuel (rest.drop 1) o c
          -- one more file to compile beside the main one, and the unit is not read
          else if !a.startsWith "-" && namesCompiledFile a then none
          else go fuel rest o c

end NativeBindings.Header
