import NativeBindings.Header.Type

/-!
# Targets

A target is named by a triple: the processor, the vendor, the system and the environment (the
C library or the ABI), as in `x86_64-unknown-linux-gnu`. A triple may leave parts out or write
them out of place, as `x86_64-linux-gnu` and `wasm32` do; `Target.ofTriple?` puts each part in
its place by what it names and fills the gaps with `unknown`, as the compiler driver does. The
systems of Windows are spelled one way whatever the triple writes: `mingw32` is Windows with the
GNU environment, `cygwin` Windows with Cygwin's, and Windows without an environment is that of
Microsoft's compiler. A triple whose processor is not known names no target.

What a target fixes about the builtin types is `Target.typeModel`: the data model of the
processor and the system, the signedness of plain `char`, the format of `long double`, the
types the standard names and the shape of `va_list`. Each processor has its own model, and some
systems change parts of it, as Windows makes `long` 32 bits wide everywhere.
-/

namespace NativeBindings.Header

/-- The processor families that triples name. -/
inductive Arch where
  | x86 | x86_64 | aarch64 | aarch64_be | aarch64_32 | arm | armeb | thumb | thumbeb
  | mips | mipsel | mips64 | mips64el | ppc | ppcle | ppc64 | ppc64le | riscv32 | riscv64
  | sparc | sparcel | sparcv9 | systemz | wasm32 | wasm64 | loongarch32 | loongarch64
  | hexagon | bpfel | bpfeb
deriving DecidableEq, Inhabited, Repr

/-- The systems that triples name. -/
inductive OS where
  | unknown | darwin | dragonfly | freebsd | fuchsia | ios | kfreebsd | linux | lv2 | macos
  | netbsd | openbsd | solaris | windows | zos | haiku | rtems | nacl | aix | cuda | nvcl
  | amdhsa | ps4 | ps5 | elfiamcu | tvos | watchos | bridgeos | driverkit | xros | mesa3d
  | amdpal | hermit | hurd | wasi | emscripten | shadermodel | liteos | serenity | vulkan
deriving DecidableEq, Inhabited, Repr

/-- The environments that triples name: C libraries and ABIs. -/
inductive Environment where
  | unknown | gnu | gnuabin32 | gnuabi64 | gnueabi | gnueabihf | gnuf32 | gnuf64 | gnusf
  | gnux32 | gnuilp32 | code16 | eabi | eabihf | android | musl | musleabi | musleabihf
  | muslx32 | msvc | itanium | cygnus | coreclr | simulator | macabi | opencl | ohos
deriving DecidableEq, Inhabited, Repr

/-- The processor names that stand for a family as they are. -/
def archNames : List (String × Arch) :=
  [("i386", .x86), ("i486", .x86), ("i586", .x86), ("i686", .x86), ("i786", .x86),
   ("i886", .x86), ("i986", .x86), ("amd64", .x86_64), ("x86_64", .x86_64),
   ("x86_64h", .x86_64), ("powerpc", .ppc), ("powerpcspe", .ppc), ("ppc", .ppc),
   ("ppc32", .ppc), ("powerpcle", .ppcle), ("ppcle", .ppcle), ("ppc32le", .ppcle),
   ("powerpc64", .ppc64), ("ppu", .ppc64), ("ppc64", .ppc64), ("powerpc64le", .ppc64le),
   ("ppc64le", .ppc64le), ("xscale", .arm), ("xscaleeb", .armeb), ("aarch64", .aarch64),
   ("aarch64_be", .aarch64_be), ("aarch64_32", .aarch64_32), ("arm64", .aarch64),
   ("arm64_32", .aarch64_32), ("arm64e", .aarch64), ("arm64ec", .aarch64), ("arm", .arm),
   ("armeb", .armeb), ("thumb", .thumb), ("thumbeb", .thumbeb), ("mips", .mips),
   ("mipseb", .mips), ("mipsallegrex", .mips), ("mipsisa32r6", .mips), ("mipsr6", .mips),
   ("mipsel", .mipsel), ("mipsallegrexel", .mipsel), ("mipsisa32r6el", .mipsel),
   ("mipsr6el", .mipsel), ("mips64", .mips64), ("mips64eb", .mips64), ("mipsn32", .mips64),
   ("mipsisa64r6", .mips64), ("mips64r6", .mips64), ("mipsn32r6", .mips64),
   ("mips64el", .mips64el), ("mipsn32el", .mips64el), ("mipsisa64r6el", .mips64el),
   ("mips64r6el", .mips64el), ("mipsn32r6el", .mips64el), ("riscv32", .riscv32),
   ("riscv64", .riscv64), ("hexagon", .hexagon), ("s390x", .systemz), ("systemz", .systemz),
   ("sparc", .sparc), ("sparcel", .sparcel), ("sparcv9", .sparcv9), ("sparc64", .sparcv9),
   ("wasm32", .wasm32), ("wasm64", .wasm64), ("loongarch32", .loongarch32),
   ("loongarch64", .loongarch64), ("bpf", .bpfel), ("bpfel", .bpfel), ("bpf_le", .bpfel),
   ("bpfeb", .bpfeb), ("bpf_be", .bpfeb)]

/-- The version part of an Arm processor name, such as `v7a` of `armv7a`: the name without
the prefix of its family and without its byte order, empty for a bare family; `none` when what
remains is no version. -/
def armVersionPart (name : String) : Option String :=
  let start? : Option Nat :=
    if name.startsWith "arm64_32" then some 8
    else if name.startsWith "arm64e" then some 6
    else if name.startsWith "arm64" then some 5
    else if name.startsWith "aarch64_32" then some 10
    else if name.startsWith "arm" then some 3
    else if name.startsWith "thumb" then some 5
    else if name.startsWith "aarch64" then
      if (name.splitOn "eb").length > 1 then none
      else if ((name.drop 7).toString).startsWith "_be" then some 10 else some 7
    else none
  match start? with
  | none => none
  | some n =>
    let rest := (name.drop n).toString
    let rest := if rest.startsWith "eb" then (rest.drop 2).toString
      else if rest.endsWith "eb" then (rest.dropEnd 2).toString else rest
    if rest.isEmpty then some ""
    else match rest.toList with
      | 'v' :: d :: _ => if d.isDigit && (rest.splitOn "eb").length == 1 then some rest else none
      | [_] => some rest
      | _ => none

/-- The family of a processor name: one of the names as they are, or an Arm name with a version,
whose family its prefix and its byte order give. -/
def Arch.ofName? (name : String) : Option Arch :=
  match archNames.find? (·.1 == name) with
  | some (_, a) => some a
  | none =>
    if name.startsWith "arm" || name.startsWith "thumb" || name.startsWith "aarch64" then
      match armVersionPart name with
      | none => none
      | some _ =>
        let big := name.startsWith "armeb" || name.startsWith "thumbeb" ||
          name.startsWith "aarch64_be" || (!name.startsWith "aarch64" && name.endsWith "eb")
        if name.startsWith "aarch64" then some (if big then .aarch64_be else .aarch64)
        else if name.startsWith "thumb" then some (if big then .thumbeb else .thumb)
        else some (if big then .armeb else .arm)
    else none

/-- The version of the architecture that a processor name asks for, as the target queries
compare it: the version part of an Arm name, with the default A profile written or not, and
the variants of other families; empty when the name asks for none. -/
def subArchOf (name : String) : String :=
  if ["arm64e", "arm64ec"].contains name then name
  else if ["mipsisa32r6", "mipsr6", "mipsisa32r6el", "mipsr6el", "mipsisa64r6", "mips64r6",
      "mipsn32r6", "mipsisa64r6el", "mips64r6el", "mipsn32r6el"].contains name then "r6"
  else if (archNames.find? (·.1 == name)).isSome then ""
  else match armVersionPart name with
    | some v =>
      let v := String.ofList (v.toList.filter (· != '-'))
      if v.endsWith "a" && v.length > 2 then (v.dropEnd 1).toString else v
    | none => ""

/-- The vendors that a triple's second part may name. -/
def knownVendors : List String :=
  ["apple", "pc", "scei", "sie", "fsl", "ibm", "img", "mti", "nvidia", "csr", "amd", "mesa",
   "suse", "oe"]

/-- The systems by the start of their names. -/
def osNames : List (String × OS) :=
  [("darwin", .darwin), ("dragonfly", .dragonfly), ("freebsd", .freebsd),
   ("fuchsia", .fuchsia), ("ios", .ios), ("kfreebsd", .kfreebsd), ("linux", .linux),
   ("lv2", .lv2), ("macos", .macos), ("netbsd", .netbsd), ("openbsd", .openbsd),
   ("solaris", .solaris), ("win32", .windows), ("windows", .windows), ("zos", .zos),
   ("haiku", .haiku), ("rtems", .rtems), ("nacl", .nacl), ("aix", .aix), ("cuda", .cuda),
   ("nvcl", .nvcl), ("amdhsa", .amdhsa), ("ps4", .ps4), ("ps5", .ps5),
   ("elfiamcu", .elfiamcu), ("tvos", .tvos), ("watchos", .watchos), ("bridgeos", .bridgeos),
   ("driverkit", .driverkit), ("xros", .xros), ("visionos", .xros), ("mesa3d", .mesa3d),
   ("amdpal", .amdpal), ("hermit", .hermit), ("hurd", .hurd), ("wasi", .wasi),
   ("emscripten", .emscripten), ("shadermodel", .shadermodel), ("liteos", .liteos),
   ("serenity", .serenity), ("vulkan", .vulkan)]

/-- The system a name starts with. -/
def OS.ofName (name : String) : OS :=
  ((osNames.find? fun (p, _) => name.startsWith p).map (·.2)).getD .unknown

/-- The environments by the start of their names, the longer of two names that start alike
first. -/
def environmentNames : List (String × Environment) :=
  [("eabihf", .eabihf), ("eabi", .eabi), ("gnuabin32", .gnuabin32), ("gnuabi64", .gnuabi64),
   ("gnueabihf", .gnueabihf), ("gnueabi", .gnueabi), ("gnuf32", .gnuf32),
   ("gnuf64", .gnuf64), ("gnusf", .gnusf), ("gnux32", .gnux32), ("gnu_ilp32", .gnuilp32),
   ("code16", .code16), ("gnu", .gnu), ("android", .android), ("musleabihf", .musleabihf),
   ("musleabi", .musleabi), ("muslx32", .muslx32), ("musl", .musl), ("msvc", .msvc),
   ("itanium", .itanium), ("cygnus", .cygnus), ("coreclr", .coreclr),
   ("simulator", .simulator), ("macabi", .macabi), ("opencl", .opencl), ("ohos", .ohos)]

/-- The environment a name starts with. -/
def Environment.ofName (name : String) : Environment :=
  ((environmentNames.find? fun (p, _) => name.startsWith p).map (·.2)).getD .unknown

/-- The object file formats that may stand in a triple's last part. -/
def objectFormats : List String :=
  ["coff", "dxcontainer", "elf", "goff", "macho", "spirv", "wasm", "xcoff"]

/-- Whether a part of a triple names what the place `place` holds: the processor, the vendor,
the system (Cygwin and MinGW among them) or the environment (or an object file format). -/
def namesPart (place : Nat) (c : String) : Bool :=
  match place with
  | 0 => (Arch.ofName? c).isSome
  | 1 => knownVendors.contains c
  | 2 => OS.ofName c != .unknown || c.startsWith "cygwin" || c.startsWith "mingw"
  | _ => Environment.ofName c != .unknown || objectFormats.any (c.endsWith ·)

/-- The first place from `i` on that is not already filled. -/
def skipPlaced (found : Array Bool) : Nat → Nat → Nat
  | 0, i => i
  | fuel + 1, i => if i < 4 && found.getD i false then skipPlaced found fuel (i + 1) else i

/-- Moves the part at `idx` to the place `place` before it; each part in the way that is not
in its place goes one free place on, the last one into the gap that the moved part leaves. -/
def moveLeft (parts : Array String) (found : Array Bool) (place idx : Nat) : Array String :=
  go (parts.size + 1) place (parts.getD idx "") (parts.set! idx "")
where
  /-- Puts `current` at the first free place from `i` on and goes on with the part it was on. -/
  go : Nat → Nat → String → Array String → Array String
    | 0, _, _, ps => ps
    | fuel + 1, i, current, ps =>
      if current.isEmpty then ps
      else
        let i := skipPlaced found 4 i
        go fuel (i + 1) (ps.getD i "") (ps.set! i current)

/-- Puts an empty part at `idx`: each part from there on that is not in its place goes one free
place on, up to the first empty part; a part pushed past the last is put at the end. -/
def insertEmpty (parts : Array String) (found : Array Bool) (idx : Nat) : Array String :=
  go (parts.size + 1) idx "" parts
where
  /-- Puts `current` at `i` and goes on with the part it was on. -/
  go : Nat → Nat → String → Array String → Array String
    | 0, _, current, ps => if current.isEmpty then ps else ps.push current
    | fuel + 1, i, current, ps =>
      if i < ps.size then
        let next := ps.getD i ""
        let ps := ps.set! i current
        if next.isEmpty then ps else go fuel (skipPlaced found 4 (i + 1)) next ps
      else if current.isEmpty then ps else ps.push current

/-- Moves the part at `idx` on to the place `place` after it, putting empty parts before it. -/
def moveRight (parts : Array String) (found : Array Bool) (place idx : Nat) : Array String :=
  go (place + 1) idx parts
where
  /-- Puts one empty part before the part, now at `i`. -/
  go : Nat → Nat → Array String → Array String
    | 0, _, ps => ps
    | fuel + 1, i, ps =>
      let ps := insertEmpty ps found i
      let i := skipPlaced found 4 (i + 1)
      if i < place then go fuel i ps else ps

/-- Puts the parts of a triple in their places. A part already in a place that it names stays;
for each place still open, in order, the first part that names what the place holds is moved
there, and the parts in the way move over to make room. -/
def placeParts (parts : Array String) : Array String := Id.run do
  let mut parts := parts
  let mut found : Array Bool := #[0, 1, 2, 3].map fun i =>
    match parts[i]? with
    | some c =>
      if i == 2 then OS.ofName c != .unknown
      else if i == 3 then Environment.ofName c != .unknown
      else namesPart i c
    | none => false
  for place in [0:4] do
    if found.getD place false then continue
    let mut moved := false
    for idx in [0:parts.size] do
      if moved then continue
      if idx < 4 && found.getD idx false then continue
      if !namesPart place (parts.getD idx "") then continue
      if place < idx then parts := moveLeft parts found place idx
      else if place > idx then parts := moveRight parts found place idx
      found := found.set! place true
      moved := true
  return parts

/-- A target: the processor family and the version of its architecture, the vendor as the triple
writes it, the system and the environment. -/
structure Target where
  arch : Arch := .x86_64
  subArch : String := ""
  vendor : String := "unknown"
  os : OS := .linux
  environment : Environment := .gnu
  /-- The version of Microsoft's compiler that the environment names, as `19.0` of `msvc19.0`. -/
  environmentVersion : String := ""
deriving DecidableEq, Inhabited, Repr

/-- The target a triple names; `none` when its processor is not known. -/
def Target.ofTriple? (triple : String) : Option Target := do
  let parts := placeParts (triple.splitOn "-").toArray
  let parts := parts.map fun p => if p.isEmpty then "unknown" else p
  let system := parts[2]?.getD ""
  let parts :=
    if OS.ofName system == .windows then
      let env := parts[3]?.getD ""
      let env := if Environment.ofName env == .unknown then "msvc" else env
      #[parts[0]!, parts[1]?.getD "unknown", "windows", env]
    else if system.startsWith "mingw" then #[parts[0]!, parts[1]?.getD "unknown", "windows", "gnu"]
    else if system.startsWith "cygwin" then
      #[parts[0]!, parts[1]?.getD "unknown", "windows", "cygnus"]
    else parts
  let name := parts[0]?.getD ""
  let arch ← Arch.ofName? name
  let env := parts[3]?.getD ""
  let environment := Environment.ofName env
  let environmentVersion :=
    if environment == .msvc then (env.drop 4).toString else ""
  -- the driver names a Darwin system by the one it stands for, macOS
  let os := match OS.ofName (parts[2]?.getD "") with
    | .darwin => .macos
    | o => o
  return { arch, subArch := subArchOf name, vendor := parts[1]?.getD "unknown", os,
           environment, environmentVersion }

/-- The name of the family in the target's triple, as the driver writes it when it changes the
family. -/
def Arch.name : Arch → String
  | .x86 => "i386" | .x86_64 => "x86_64" | .aarch64 => "aarch64" | .aarch64_be => "aarch64_be"
  | .aarch64_32 => "aarch64_32" | .arm => "arm" | .armeb => "armeb" | .thumb => "thumb"
  | .thumbeb => "thumbeb" | .mips => "mips" | .mipsel => "mipsel" | .mips64 => "mips64"
  | .mips64el => "mips64el" | .ppc => "powerpc" | .ppcle => "powerpcle" | .ppc64 => "powerpc64"
  | .ppc64le => "powerpc64le" | .riscv32 => "riscv32" | .riscv64 => "riscv64"
  | .sparc => "sparc" | .sparcel => "sparcel" | .sparcv9 => "sparcv9" | .systemz => "s390x"
  | .wasm32 => "wasm32" | .wasm64 => "wasm64" | .loongarch32 => "loongarch32"
  | .loongarch64 => "loongarch64" | .hexagon => "hexagon" | .bpfel => "bpfel" | .bpfeb => "bpfeb"

/-- The 32-bit family of the same processor, if it has one. -/
def Arch.variant32? : Arch → Option Arch
  | .x86 | .x86_64 => some .x86
  | .mips | .mips64 => some .mips
  | .mipsel | .mips64el => some .mipsel
  | .ppc | .ppc64 => some .ppc
  | .ppcle | .ppc64le => some .ppcle
  | .riscv32 | .riscv64 => some .riscv32
  | .sparc | .sparcv9 => some .sparc
  | .wasm32 | .wasm64 => some .wasm32
  | .loongarch32 | .loongarch64 => some .loongarch32
  | .arm | .aarch64 => some .arm
  | .armeb | .aarch64_be => some .armeb
  | .thumb => some .thumb
  | .thumbeb => some .thumbeb
  | .hexagon => some .hexagon
  | _ => none

/-- The 64-bit family of the same processor, if it has one. -/
def Arch.variant64? : Arch → Option Arch
  | .x86 | .x86_64 => some .x86_64
  | .mips | .mips64 => some .mips64
  | .mipsel | .mips64el => some .mips64el
  | .ppc | .ppc64 => some .ppc64
  | .ppcle | .ppc64le => some .ppc64le
  | .riscv32 | .riscv64 => some .riscv64
  | .sparc | .sparcv9 => some .sparcv9
  | .wasm32 | .wasm64 => some .wasm64
  | .loongarch32 | .loongarch64 => some .loongarch64
  | .arm | .thumb | .aarch64 => some .aarch64
  | .armeb | .thumbeb | .aarch64_be => some .aarch64_be
  | .systemz => some .systemz
  | .bpfel => some .bpfel
  | .bpfeb => some .bpfeb
  | _ => none

namespace Target

/-- Whether the system is one of Apple's. -/
def isDarwin (t : Target) : Bool :=
  [OS.darwin, .macos, .ios, .tvos, .watchos, .bridgeos, .driverkit, .xros].contains t.os

/-- Whether the system is Windows. -/
def isWindows (t : Target) : Bool := t.os == .windows

/-- Whether the target is Windows with Microsoft's compiler and library. -/
def isMSVC (t : Target) : Bool := t.isWindows && (t.environment == .msvc || t.environment == .unknown)

/-- Whether the target is Windows with the GNU environment, MinGW. -/
def isMinGW (t : Target) : Bool := t.isWindows && t.environment == .gnu

/-- Whether the target is Windows with Cygwin's environment. -/
def isCygwin (t : Target) : Bool := t.isWindows && t.environment == .cygnus

/-- Whether the object files of the target are ELF files, as on every system that is neither
Windows, one of Apple's nor WebAssembly's. -/
def isELF (t : Target) : Bool :=
  !t.isWindows && !t.isDarwin && t.arch != .wasm32 && t.arch != .wasm64 && t.os != .aix &&
    t.os != .zos

/-- Whether the family is one of x86. -/
def isX86 (t : Target) : Bool := t.arch == .x86 || t.arch == .x86_64

/-- Whether the family is one of Arm's 32-bit ones. -/
def isArm32 (t : Target) : Bool := [Arch.arm, .armeb, .thumb, .thumbeb].contains t.arch

/-- Whether the family is one of Arm's 64-bit ones. -/
def isAArch64 (t : Target) : Bool := [Arch.aarch64, .aarch64_be, .aarch64_32].contains t.arch

/-- Whether the family is one of MIPS. -/
def isMips (t : Target) : Bool := [Arch.mips, .mipsel, .mips64, .mips64el].contains t.arch

/-- Whether the family is one of PowerPC. -/
def isPowerPC (t : Target) : Bool := [Arch.ppc, .ppcle, .ppc64, .ppc64le].contains t.arch

/-- Whether the family is one of SPARC. -/
def isSparc (t : Target) : Bool := [Arch.sparc, .sparcel, .sparcv9].contains t.arch

/-- Whether the family is one of RISC-V. -/
def isRiscV (t : Target) : Bool := t.arch == .riscv32 || t.arch == .riscv64

/-- Whether the family is WebAssembly. -/
def isWasm (t : Target) : Bool := t.arch == .wasm32 || t.arch == .wasm64

/-- Whether the family is LoongArch. -/
def isLoongArch (t : Target) : Bool := t.arch == .loongarch32 || t.arch == .loongarch64

/-- Whether bytes are stored most significant first. -/
def isBigEndian (t : Target) : Bool :=
  [Arch.aarch64_be, .armeb, .thumbeb, .mips, .mips64, .ppc, .ppc64, .sparc, .sparcv9,
   .systemz, .bpfeb].contains t.arch

/-- Whether the x86-64 target uses 32-bit pointers, as the `x32` environments do. -/
def isX32 (t : Target) : Bool :=
  t.arch == .x86_64 && (t.environment == .gnux32 || t.environment == .muslx32)

/-- Whether the MIPS target uses the 32-bit ABI. -/
def isMipsO32 (t : Target) : Bool := t.arch == .mips || t.arch == .mipsel

/-- Whether the 64-bit MIPS target uses 32-bit pointers, as its `n32` ABI does. -/
def isMipsN32 (t : Target) : Bool := (t.arch == .mips64 || t.arch == .mips64el) && t.environment == .gnuabin32

/-- Whether the 32-bit Arm target follows the procedure call standard of the Arm architecture
(AAPCS) rather than the older APCS, which the GNU environment without an EABI keeps. -/
def isAAPCS (t : Target) : Bool :=
  if t.isDarwin then false
  else if t.isWindows then true
  else match t.environment with
    | .android | .gnueabi | .gnueabihf | .musleabi | .musleabihf | .ohos | .eabi | .eabihf => true
    | .gnu => false
    | _ => t.os != .netbsd

/-- The target with another family, as `-m32` and `-m64` ask for; the version of the
architecture goes with the old family. -/
def withArch (t : Target) (a : Arch) : Target :=
  if a == t.arch then t else { t with arch := a, subArch := "" }

/-- The size in bytes of a pointer. -/
def pointerSize (t : Target) : Nat :=
  match t.arch with
  | .x86_64 => if t.isX32 then 4 else 8
  | .aarch64 | .aarch64_be => 8
  | .mips64 | .mips64el => if t.isMipsN32 then 4 else 8
  | .ppc64 | .ppc64le | .riscv64 | .sparcv9 | .systemz | .wasm64 | .loongarch64
  | .bpfel | .bpfeb => 8
  | _ => 4

/-- Whether plain `char` is unsigned by default: on Arm's processors except on Apple's systems
and Windows, on PowerPC except on Apple's, and on Hexagon, RISC-V and SystemZ. -/
def charUnsigned (t : Target) : Bool :=
  match t.arch with
  | .aarch64 | .aarch64_32 | .aarch64_be | .arm | .armeb | .thumb | .thumbeb =>
    !(t.isDarwin || t.isWindows)
  | .ppc | .ppc64 => !t.isDarwin
  | .hexagon | .ppcle | .ppc64le | .riscv32 | .riscv64 | .systemz => true
  | _ => false

/-- The calling conventions, by their attribute names, that the target does not support, which
are warned about and dropped. -/
def unsupportedConventions (t : Target) : List String :=
  let x86Only := ["stdcall", "fastcall", "thiscall", "pascal", "vectorcall", "regcall",
    "intel_ocl_bicc"]
  match t.arch with
  | .x86 => []
  | .x86_64 => if t.isWindows then ["pascal"] else ["stdcall", "fastcall", "thiscall", "pascal"]
  | .aarch64 | .aarch64_be | .aarch64_32 =>
    if t.isWindows then ["pascal", "regcall", "intel_ocl_bicc"] else x86Only
  | _ => x86Only ++ ["ms_abi"]

/-- The model of the builtin types on the target. -/
def typeModel (t : Target) : TypeModel :=
  let base : TypeModel := { charUnsigned := t.charUnsigned, sizedPointers := t.isX86 || t.isAArch64 }
  -- a 32-bit processor with the defaults of the front end: ILP32, `long double` a `double`
  let ilp32 : TypeModel :=
    { base with longSize := 4, pointerSize := 4, longDoubleSize := 8, longDoubleAlign := 8,
                longDoubleFormat := .double, int128 := false, atomicPromote := 8,
                atomicInline := 8, vaList := .charPointer, msVaList := false,
                sizeType := .unsignedInt, ptrdiffType := .int, intmaxType := .longLong,
                int64Type := .longLong, wintType := .int, float128 := false,
                bigEndian := t.isBigEndian }
  -- a 64-bit processor: LP64 with a quadruple `long double`
  let lp64 : TypeModel :=
    { base with longDoubleFormat := .quad, vaList := .voidPointer, msVaList := false,
                atomicPromote := 8, intmaxType := .long, int64Type := .long, wintType := .int,
                float128 := false, bigEndian := t.isBigEndian }
  let m : TypeModel := match t.arch with
    | .x86 =>
      { ilp32 with longDoubleSize := 12, longDoubleAlign := 4, longDoubleFormat := .x87,
                   wideAlign := 4 }
    | .x86_64 =>
      if t.isX32 then
        { base with longSize := 4, pointerSize := 4, int128 := false, sizeType := .unsignedInt,
                    ptrdiffType := .int, intmaxType := .longLong, int64Type := .longLong,
                    wintType := .int, float128 := false }
      else { base with wintType := .int, float128 := false }
    | .aarch64 | .aarch64_be | .aarch64_32 =>
      let small := t.arch == .aarch64_32
      { lp64 with longSize := if small then 4 else 8, pointerSize := if small then 4 else 8,
                  atomicPromote := 16, atomicInline := 16, vaList := .aarch64, msVaList := true,
                  wcharType := if t.isDarwin || t.os == .netbsd || t.os == .openbsd then .int
                    else .unsignedInt,
                  intmaxType := if t.os == .openbsd then .longLong else .long,
                  int64Type := if t.os == .openbsd then .longLong else .long }
    | .arm | .armeb | .thumb | .thumbeb =>
      let bsd := t.isDarwin || t.os == .netbsd || t.os == .openbsd
      let aapcs := t.isAAPCS
      { ilp32 with sizeType := if bsd then .unsignedLong else .unsignedInt,
                   ptrdiffType := if t.os == .netbsd || t.os == .openbsd then .long else .int,
                   wideAlign := if aapcs then 8 else 4,
                   longDoubleAlign := if aapcs then 8 else 4,
                   wcharType := if aapcs && !t.isWindows && t.os != .netbsd && t.os != .openbsd
                     then .unsignedInt else .int,
                   vaList := if aapcs then .aapcs else .voidPointer }
    | .mips | .mipsel =>
      { ilp32 with atomicPromote := 4, atomicInline := 4, vaList := .voidPointer }
    | .mips64 | .mips64el =>
      let freebsd := t.os == .freebsd
      let ld : TypeModel :=
        { lp64 with longDoubleSize := if freebsd then 8 else 16,
                    longDoubleAlign := if freebsd then 8 else 16,
                    longDoubleFormat := if freebsd then .double else .quad }
      if t.isMipsN32 then
        { ld with longSize := 4, pointerSize := 4, sizeType := .unsignedInt, ptrdiffType := .int,
                  intmaxType := .longLong, int64Type := .longLong }
      else
        { ld with intmaxType := if t.os == .openbsd then .longLong else .long,
                  int64Type := if t.os == .openbsd then .longLong else .long }
    | .ppc | .ppcle =>
      let shortLd := t.os == .freebsd || t.os == .netbsd || t.os == .openbsd ||
        t.environment == .musl
      { ilp32 with longDoubleSize := if shortLd then 8 else 16,
                   longDoubleAlign := if shortLd then 8 else 16,
                   longDoubleFormat := if shortLd then .double else .doubleDouble,
                   sizeType := if [OS.linux, .freebsd, .netbsd].contains t.os then .unsignedInt
                     else .unsignedLong,
                   ptrdiffType := if [OS.linux, .freebsd, .netbsd].contains t.os then .int
                     else .long,
                   atomicPromote := 4, atomicInline := 4, vaList := .powerpc, ibm128 := true }
    | .ppc64 | .ppc64le =>
      let shortLd := t.os == .freebsd || t.os == .openbsd || t.environment == .musl
      { lp64 with longDoubleSize := if shortLd then 8 else 16,
                  longDoubleAlign := if shortLd then 8 else 16,
                  longDoubleFormat := if shortLd then .double else .doubleDouble,
                  vaList := .charPointer, atomicInline := 8, ibm128 := true }
    | .systemz =>
      { lp64 with longDoubleAlign := 8, int128Align := 8, vaList := .systemz,
                  atomicPromote := 8, atomicInline := 8 }
    | .sparc | .sparcel =>
      let bsd := t.os == .netbsd || t.os == .openbsd
      { ilp32 with sizeType := if bsd then .unsignedLong else .unsignedInt,
                   ptrdiffType := if bsd then .long else .int, atomicInline := 4,
                   vaList := .voidPointer }
    | .sparcv9 =>
      { lp64 with intmaxType := if t.os == .openbsd then .longLong else .long,
                  int64Type := if t.os == .openbsd then .longLong else .long }
    | .riscv32 =>
      { ilp32 with longDoubleSize := 16, longDoubleAlign := 16, longDoubleFormat := .quad,
                   wintType := .unsignedInt, atomicPromote := 4, atomicInline := 4,
                   vaList := .voidPointer }
    | .riscv64 => { lp64 with wintType := .unsignedInt, atomicInline := 8 }
    | .wasm32 | .wasm64 =>
      let wide := t.arch == .wasm64
      { ilp32 with longSize := if wide then 8 else 4, pointerSize := if wide then 8 else 4,
                   longDoubleSize := 16,
                   longDoubleAlign := if t.os == .emscripten then 8 else 16,
                   longDoubleFormat := .quad, sizeType := .unsignedLong, ptrdiffType := .long,
                   int128 := true }
    | .loongarch32 =>
      { ilp32 with longDoubleSize := 16, longDoubleAlign := 16, longDoubleFormat := .quad,
                   wintType := .unsignedInt, atomicPromote := 4, atomicInline := 4,
                   vaList := .voidPointer }
    | .loongarch64 => { lp64 with wintType := .unsignedInt, atomicInline := 8 }
    | .hexagon => ilp32
    | .bpfel | .bpfeb =>
      { lp64 with longDoubleSize := 8, longDoubleAlign := 8, longDoubleFormat := .double }
  -- what the systems change
  let m : TypeModel :=
    if t.os == .linux then
      { m with wintType := .unsignedInt, float128 := m.float128 || t.isX86 }
    else if t.os == .solaris then
      { m with wcharType := if m.pointerSize == 8 then .int else .long,
               wintType := if m.pointerSize == 8 then .int else .long,
               float128 := m.float128 || t.isX86 }
    else if t.os == .openbsd then
      { m with wcharType := .int, wintType := .int, intmaxType := .longLong,
               int64Type := .longLong, float128 := m.float128 || t.isX86 }
    else if t.os == .freebsd then { m with float128 := m.float128 || t.isX86 }
    else m
  let m : TypeModel :=
    if t.isDarwin then
      match t.arch with
      | .x86_64 => { m with int64Type := .longLong }
      | .x86 =>
        { m with longDoubleSize := 16, longDoubleAlign := 16, sizeType := .unsignedLong }
      | .aarch64 | .aarch64_32 =>
        { m with int64Type := .longLong, wcharType := .int, longDoubleSize := 8,
                 longDoubleAlign := 8, longDoubleFormat := .double, vaList := .charPointer,
                 intmaxType := if t.arch == .aarch64_32 then .longLong else m.intmaxType }
      | _ => m
    else if t.isWindows then
      let llp64 : TypeModel :=
        { m with wcharType := .unsignedShort, wintType := .unsignedShort, wideAlign := 8 }
      let llp64 : TypeModel :=
        if m.pointerSize == 8 then
          { llp64 with longSize := 4, intmaxType := .longLong, int64Type := .longLong,
                       sizeType := .unsignedLongLong, ptrdiffType := .longLong,
                       vaList := .charPointer }
        else llp64
      if t.isCygwin then
        { m with wcharType := .unsignedShort, wideAlign := 8 }
      else if t.isMinGW then
        if t.arch == .x86_64 then
          { llp64 with longDoubleSize := 16, longDoubleAlign := 16, float128 := true }
        else { llp64 with float128 := t.isX86 }
      else
        { llp64 with longDoubleSize := 8, longDoubleAlign := 8, longDoubleFormat := .double,
                     microsoftLayout := true }
    else m
  m

end Target

end NativeBindings.Header
