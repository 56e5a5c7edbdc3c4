import NativeBindings.Header.Reader.State
import NativeBindings.Header.Compatible
import NativeBindings.Header.Initialize

/-!
# Meaning of declarations

What reading does with a declaration once its parts are read: the type that declaration
specifiers name (`DeclSpec.type`), the type that a declarator makes of it (`buildType`), and
the declaring of typedef names, functions, variables, parameters, members, records, enums and
enumerators, with the errors that C asks for. The wording of each error is the front end's.

A declarator is a list of steps (`Chunk`) from the declared name outwards; the type is built
from the outermost step in, so that `int *a[3]` is an array of pointers.
-/

namespace NativeBindings.Header

/-- What type specifiers name besides builtin words. -/
inductive Special where
  | none
  | tag (kind : TagKind) (use : TagUse)
  | typedefName (id : Nat)
  | typeofExpr (text : String) (type : Ty) (unqualified : Bool)
  | typeofType (type : Ty) (unqualified : Bool)
  /-- `decltype (expr)`, with the expression's spelling and type. -/
  | decltype (text : String) (type : Ty)
  | atomic (type : Ty)
  | bitInt (bits : Nat)
  /-- A type that the initializer gives, asked for by a keyword: `__auto_type`, or `auto` in
  C23. -/
  | deduced (keyword : String)
  /-- A name that names no type; it has been reported. -/
  | error
deriving Inhabited, Repr

/-- A `vector_size` attribute, or an `ext_vector_type` one when `extended`: its size when it is
a constant, in bytes or in elements, and where its name stands. -/
structure VectorSize where
  size : Option Nat
  pos : Position
  extended : Bool := false
deriving Inhabited, Repr

/-- A type attribute as written among declaration specifiers or after a `*`, with where it was
written; an address space carries its number. -/
structure WrittenAttr where
  attr : TypeAttr
  pos : Position
  space : Nat := 0
deriving Inhabited, Repr

/-- The arguments of an attribute whose arguments are expressions, as `nonnull`, `format`,
`cleanup` and `alloc_size`: its name and place, the identifier it starts with (the kind of a `format`), and the
value of each expression that is an integer constant. -/
structure AttrArguments where
  name : String
  pos : Position
  ident : Option String := none
  values : List (Option Int) := []
  /-- Where each argument starts. -/
  places : List Position := []
  /-- The name of the attribute as written, underscores kept. -/
  written : String := ""
deriving Inhabited, Repr

/-- What `__attribute__((...))` lists say that the reading keeps: the size of a vector type,
`packed`, the largest alignment in bytes that `aligned` asks for (`0` for none), and the
address spaces asked for. -/
structure Attrs where
  vector : Option VectorSize := none
  packed : Bool := false
  aligned : Nat := 0
  overloadable : Bool := false
  typeAttrs : Array WrittenAttr := #[]
  /-- What `deprecated` and `unavailable` say. -/
  availability : Availability := {}
  /-- `ms_struct` was written. -/
  msStruct : Bool := false
  /-- The machine modes that `mode` attributes ask for, in order, each with the place of the
  attribute. -/
  modes : Array (Position × String) := #[]
  /-- The attributes whose arguments are checked against the declaration. -/
  argued : Array AttrArguments := #[]

/-- Declaration specifiers as read. -/
structure DeclSpec where
  start : Position
  storage : Option String := none
  storagePos : Option Position := none
  inline : Bool := false
  quals : Quals := {}
  /-- `_Atomic` written as a qualifier. -/
  atomic : Bool := false
  /-- The builtin type word: `void`, `char`, `int`, `float`, `double`, `_Bool`, ... -/
  base : Option String := none
  /-- Where the builtin type word was written. -/
  basePos : Option Position := none
  /-- `unsigned` (true) or `signed` (false). -/
  sign : Option Bool := none
  short : Bool := false
  longs : Nat := 0
  complex : Bool := false
  /-- Where the sign word, the first width word and `_Complex` were written. -/
  signPos : Option Position := none
  widthPos : Option Position := none
  complexPos : Option Position := none
  special : Special := .none
  /-- The tag whose definition these specifiers hold. -/
  defines : Option Nat := none
  vectorSize : Option VectorSize := none
  packed : Bool := false
  /-- The alignment in bytes that attributes and `_Alignas` ask for; `0` for none. -/
  aligned : Nat := 0
  /-- An `overloadable` attribute was written before the declaration. -/
  overloadable : Bool := false
  /-- Where `inline` and `_Noreturn` were written. -/
  inlinePos : Option Position := none
  noreturnPos : Option Position := none
  /-- Where `_Thread_local` or a spelling of it was written. -/
  threadPos : Option Position := none
  /-- Where `restrict` was first written among the specifiers. -/
  restrictPos : Option Position := none
  /-- Where `const` and `volatile` were first written among the specifiers. -/
  constPos : Option Position := none
  volatilePos : Option Position := none
  /-- Where the keyword of the `struct`, `union` or `enum` specifier that gives the type was
  written. -/
  tagPos : Option Position := none
  /-- Nothing has been read. -/
  empty : Bool := true
  /-- The scopes written before the name of the type, as in `N::S`. -/
  qualifier : String := ""
  /-- The record or enum is named without its keyword, as C++ allows. -/
  keywordless : Bool := false
  /-- `constexpr` was written. -/
  constexpr : Bool := false
  /-- The type attributes written among the specifiers: nullability, pointer kinds and address
  spaces. -/
  typeAttrs : Array WrittenAttr := #[]
  /-- What `deprecated` and `unavailable` attributes among the specifiers say. -/
  availability : Availability := {}
  /-- The machine modes that `mode` attributes among the specifiers ask for. -/
  modes : Array (Position × String) := #[]
  /-- The attributes among the specifiers whose arguments are checked. -/
  argued : Array AttrArguments := #[]
deriving Inhabited

namespace DeclSpec

/-- Whether a type specifier has been read. -/
def hasType (ds : DeclSpec) : Bool :=
  ds.base.isSome || ds.sign.isSome || ds.short || ds.longs > 0 || ds.complex ||
    !(ds.special matches .none)

/-- The builtin type that the words name; no word at all is `int`. -/
def builtin (ds : DeclSpec) : Builtin :=
  let u := ds.sign == some true
  match ds.base with
  | some "void" => .void
  | some "_Bool" | some "bool" => .bool
  | some "char" =>
    match ds.sign with
    | some true => .unsignedChar
    | some false => .signedChar
    | none => .char
  | some "__int128" => if u then .unsignedInt128 else .int128
  | some "float" => .float
  | some "double" => if ds.longs > 0 then .longDouble else .double
  | some "__fp16" => .half
  | some "_Float16" => .float16
  | some "__bf16" => .bfloat16
  | some "__float128" => .float128
  | some "__ibm128" => .ibm128
  | some "wchar_t" => .wchar
  | some "char8_t" => .char8
  | some "char16_t" => .char16
  | some "char32_t" => .char32
  | _ =>
    if ds.short then (if u then .unsignedShort else .short)
    else if ds.longs == 1 then (if u then .unsignedLong else .long)
    else if ds.longs ≥ 2 then (if u then .unsignedLongLong else .longLong)
    else if ds.complex && ds.sign.isNone && ds.base.isNone then .double
    else if u then .unsignedInt else .int

/-- The type that declaration specifiers name. -/
def type (ds : DeclSpec) : Ty :=
  let q := ds.quals
  let t : Ty := match ds.special with
    | .tag k use => .elaborated q (if ds.keywordless then none else some k) (.tag {} use.tag) ds.qualifier
    | .typedefName i => .elaborated q none (.typedef {} i) ds.qualifier
    | .decltype s t => .decltype q s t
    | .typeofExpr s t x => .typeofExpr q s t x
    | .typeofType t x => .typeofType q t x
    | .atomic t => .atomic q t
    | .bitInt n => .bitInt q (ds.sign == some true) n
    | .deduced _ | .error => .builtin q .int
    | .none => if ds.complex then .complex q (.builtin {} ds.builtin) else .builtin q ds.builtin
  -- `_Atomic` as a qualifier: the other qualifiers apply to the atomic type.
  match ds.atomic, t with
  | true, .atomic .. => t
  | true, _ => .atomic q (t.setQuals {})
  | false, _ => t

/-- The tag that the specifiers name, if any. -/
def tagUse? (ds : DeclSpec) : Option TagUse :=
  match ds.special with
  | .tag _ u => some u
  | _ => none

/-- The name of the type specifier read, as errors name it, if one has been read: a builtin
type word, a record or enum, a typedef name, `typeof`, `_Atomic(...)` or `_BitInt`. Sign,
width and `_Complex` are not type specifiers of their own. -/
def typeSpecName (ds : DeclSpec) (c23 : Bool) : Option String :=
  match ds.special with
  | .tag k _ => some k.keyword
  | .typedefName _ => some "type-name"
  | .typeofExpr .. | .typeofType .. => some "typeof"
  | .decltype .. => some "decltype"
  | .atomic _ => some "_Atomic"
  | .bitInt _ => some "_BitInt"
  | .deduced k => some k
  | .error => some "(error)"
  | .none => ds.base.map fun b => match b with
    | "__fp16" => "half"
    | "_Bool" => if c23 then "bool" else "_Bool"
    | b => b

/-- The name of the width words read. -/
def widthName (ds : DeclSpec) : String :=
  if ds.short then "short" else if ds.longs ≥ 2 then "long long" else "long"

end DeclSpec

/-- One step of a declarator. -/
inductive Chunk where
  /-- A pointer, with its qualifiers and the type attributes written after its `*`. -/
  | pointer (q : Quals) (attrs : List WrittenAttr)
  /-- A block pointer, with where its `^` is. -/
  | blockPointer (q : Quals) (pos : Position)
  /-- An array: its size, the qualifiers and `static` inside the brackets, and where `[` is. -/
  | array (size : ArraySize) (indexQuals : Quals) (isStatic : Bool) (pos : Position)
      (sizePos : Position) (negative : Bool)
  /-- A parameter list: the parameter declarations, `...`, whether it is a prototype, where
  `(` is, the named tags declared in it when they belong to the function declared, and the
  identifiers of a list without types. -/
  | function (params : List Nat) (variadic : Bool) (prototyped : Bool) (pos : Position)
      (declared : List Nat) (identifiers : List (String × Position)) (ellipsis : Option Position)
  | paren
  /-- A C++ reference, to an rvalue when `rvalue`, with where its `&` is. -/
  | reference (rvalue : Bool) (pos : Position)
deriving Inhabited, Repr

/-- A declarator as read: the name and its place (or where it would stand), the token of the
name, and the steps from the name outwards. -/
structure Declarator where
  name : Option String := none
  namePos : Position
  nameToken : Nat
  chunks : List Chunk := []
  invalid : Bool := false
  vectorSize : Option VectorSize := none
  /-- An `overloadable` attribute was written on the declaration. -/
  overloadable : Bool := false
  packed : Bool := false
  /-- The alignment in bytes that attributes after the declarator ask for; `0` for none. -/
  aligned : Nat := 0
  /-- The declarator begins a function definition, where a parameter list without types is
  allowed. -/
  definition : Bool := false
  /-- The return type written after the parameters in C++ (`-> T`). -/
  trailing : Option Ty := none
  /-- What `deprecated` and `unavailable` attributes on the declarator say. -/
  availability : Availability := {}
  /-- The machine modes that `mode` attributes on the declarator ask for. -/
  modes : Array (Position × String) := #[]
  /-- The attributes on the declarator whose arguments are checked. -/
  argued : Array AttrArguments := #[]
deriving Inhabited

namespace Declarator

/-- The declarator with the attributes that follow it. -/
def withAttrs (d : Declarator) (a : Attrs) : Declarator :=
  { d with vectorSize := a.vector.orElse fun _ => d.vectorSize, packed := d.packed || a.packed,
           aligned := max d.aligned a.aligned, overloadable := d.overloadable || a.overloadable,
           availability := d.availability.merge a.availability, modes := d.modes ++ a.modes,
           argued := d.argued ++ a.argued }

/-- The parameter list that makes the declarator a function declarator: its first step that
is not a parenthesis. -/
def functionChunk? (d : Declarator) : Option Chunk :=
  match d.chunks.find? (fun c => !(c matches .paren)) with
  | some c@(.function ..) => some c
  | _ => none

/-- The parameters of all parameter lists, innermost type first. -/
def innerParams (d : Declarator) : List Nat :=
  d.chunks.reverse.flatMap fun
    | .function ps .. => ps
    | _ => []

/-- The name as an error names the declared entity. -/
def entityName (d : Declarator) : String := d.name.getD "type name"

end Declarator

namespace Read

/-- A type quoted as an error shows it, with what it stands for when that reads otherwise and
a diagnostic looks through some of its sugar (`Entities.diagnosticSugar`). -/
def quoteType (t : Ty) : Read String := do
  let e ← entities
  let shown := e.spell t
  let (d, aka) := e.diagnosticSugar Entities.depthLimit t
  let plain := e.spell (if d == t then e.canonical t else d)
  if !aka || shown == plain then return "'" ++ shown ++ "'"
  return "'" ++ shown ++ "' (aka '" ++ plain ++ "')"

/-- The name of a record as messages give it: its identifier, or else the typedef name that
names it, or else its type spelled. -/
def recordName (i : Nat) : Read String := do
  let e ← entities
  let d := e.tag i
  match d.name, d.typedefName with
  | some n, _ => return n
  | none, some n => return n
  | none, none => return e.spell (.tag {} i)

/-- A step of the member designator of `__builtin_offsetof`: a member, with the place of the
`.` before it (of its name, for the first) and of its name; or an index, with the places of its
expression and of its `]`. -/
inductive OffsetStep where
  | member (name : String) (start : Position) (namePos : Position)
  | index (e : Expr) (start : Position) (close : Position)
deriving Inhabited

/-- Warns about signed overflows, each at its operator with the value it gives. -/
def warnOverflows (found : List (Position × Constant)) : Read Unit := do
  for (pos, c) in found do
    warn (.on "integer-overflow") pos ("overflow in expression; result is " ++ toString c.value ++ " with type " ++
      (← quoteType (.builtin {} c.type)))

/-- The value of an integer constant expression, with the warnings of its operators and a
warning for each signed overflow in evaluating it. -/
def checkedConstant (x : Expr) : Read (Option Constant) := do
  let e ← entities
  for (pos, w, m) in e.operatorWarnings false Entities.depthLimit x do warn w pos m
  match e.constantValue x with
  | some c =>
    warnOverflows (e.overflows Entities.depthLimit x)
    return some c
  | none => return none

/-- Where an expression that must be a constant and is not is reported: at the call that keeps
it from folding, in C, and otherwise at its start. -/
def notConstantPlace (x : Expr) (start : Position) : Read Position := do
  if (← get).cxx then return start
  return ((← entities).failedCall Entities.depthLimit x).getD start

/-- Whether two types are the same type. -/
def sameType (a b : Ty) : Read Bool := do
  let e ← entities
  return e.canonical a == e.canonical b

/-- The type of a function declared again: a declaration without a prototype takes the
parameters of an earlier one with a prototype. -/
def inheritPrototype (e : Entities) (old new : Ty) : Option Ty :=
  match e.bare old, e.bare new with
  | .function _ ps v true, .function r _ _ false => some (.function r ps v true)
  | _, _ => none

/-- Whether a function declared before with a type is declared again with a compatible one. A
definition without a prototype must also take as many parameters as an earlier prototype. -/
def compatibleRedeclaration (e : Entities) (old new : Ty) (isDefinition : Bool) : Bool :=
  e.compatibleTypes old new &&
    match e.bare old, e.bare new with
    | .function _ ps _ true, .function _ qs _ false => !isDefinition || ps.length == qs.length
    | _, _ => true

/-- The types of the parameters of a parameter list, reporting `void` and `__fp16` where C
forbids them; a single unnamed `void` stands for no parameter. -/
def paramTypes (params : List Nat) (variadic : Bool) (pos : Position) (single : Bool) :
    Read (List Ty) := do
  let mut out : Array Ty := #[]
  for i in params do
    let d ← getDecl i
    let e ← entities
    match d with
    | .param name ppos pt inner =>
      if e.isVoid pt then
        if !single || variadic then
          report ppos "'void' must be the first and only parameter if specified"
          setDecl i (.param name ppos .int inner)
          out := out.push .int
        else if !name.isEmpty then
          report ppos "argument may not have 'void' type"
          setDecl i (.param name ppos .int inner)
          out := out.push .int
        else
          if !(e.bare pt).quals.isEmpty then
            report pos "'void' as parameter must not have type qualifiers"
          return out.toList
      else
        if e.isHalf pt then
          report ppos "parameters cannot have __fp16 type; did you forget * ?"
        out := out.push pt
    | _ => pure ()
  return out.toList

/-- The nullability written on a type itself, or on what other attributes on it were written
on. -/
def immediateNullability : Ty → Option TypeAttr
  | .attributed a m _ => if a.isNullability then some a else immediateNullability m
  | _ => none

/-- The nullability that a type has, looked for below its sugar. -/
def nullabilityOf (e : Entities) : Nat → Ty → Option TypeAttr
  | 0, _ => none
  | fuel + 1, t =>
    match e.attributedBelow fuel t with
    | some eq =>
      match attributedAt e fuel t with
      | some a => if a.isNullability then some a else nullabilityOf e fuel eq
      | none => nullabilityOf e fuel eq
    | none => none
where
  /-- The attribute of the first type with an attribute below the sugar. -/
  attributedAt (e : Entities) : Nat → Ty → Option TypeAttr
    | 0, _ => none
    | fuel + 1, t =>
      match t with
      | .attributed a _ _ => some a
      | .elaborated _ _ n _ | .decayed _ n | .typeofType _ n _ | .typeofExpr _ _ n _
      | .decltype _ _ n => attributedAt e fuel n
      | .typedef _ i => attributedAt e fuel (e.typedef i).underlying
      | _ => none

/-- The pointer kinds written on a type, looked for below names of typedefs and of records. -/
def pointerKindsOn (e : Entities) : Nat → Ty → List TypeAttr
  | 0, _ => []
  | fuel + 1, t =>
    match t with
    | .typedef _ i => pointerKindsOn e fuel (e.typedef i).underlying
    | .elaborated _ _ n _ => pointerKindsOn e fuel n
    | .attributed a m _ => (if a.isPointerKind then [a] else []) ++ pointerKindsOn e fuel m
    | _ => []

/-- Whether a type may have a nullability: a pointer of any kind. -/
def canHaveNullability (e : Entities) (t : Ty) : Bool :=
  match e.canonical t with
  | .pointer .. | .blockPointer .. => true
  | .objcObject _ n => ["id", "Class", "SEL"].contains n
  | _ => false

/-- Applies a type attribute to a type. A nullability applies to pointers, once; Microsoft's
pointer kinds apply to pointers, each once and not `__ptr32` with `__ptr64` nor `__sptr` with
`__uptr`, and move what the pointer points to into the address space of a pointer of the width
they ask for; an address space applies once. -/
def applyTypeAttr (w : WrittenAttr) (t : Ty) : Read Ty := do
  let e ← entities
  let kw := "'" ++ w.attr.keyword ++ "'"
  if w.attr.isNullability then
    let conflict (old : TypeAttr) : Read Ty := do
      report w.pos ("nullability specifier " ++ kw ++ " conflicts with existing specifier '" ++
        old.keyword ++ "'")
      return t
    match immediateNullability t with
    | some old =>
      if old != w.attr then return ← conflict old
      warn (.on "nullability") w.pos ("duplicate nullability specifier " ++ kw)
    | none =>
      match nullabilityOf e Entities.depthLimit t with
      | some old => if old != w.attr then return ← conflict old
      | none => pure ()
    if !canHaveNullability e t then
      report w.pos ("nullability specifier " ++ kw ++ " cannot be applied to non-pointer type " ++
        (← quoteType t))
      return t
    return .attributed w.attr t t
  else if w.attr.isPointerKind then
    let present := pointerKindsOn e Entities.depthLimit t
    if present.contains w.attr then
      warn (.on "ignored-attributes") w.pos ("attribute " ++ kw ++ " is already applied")
      return t
    let all := w.attr :: present
    if all.contains .ptr32 && all.contains .ptr64 then
      report w.pos "'__ptr32' and '__ptr64' attributes are not compatible"
      return t
    if all.contains .sptr && all.contains .uptr then
      report w.pos "'__sptr' and '__uptr' attributes are not compatible"
      return t
    match e.bare t with
    | .pointer _ p =>
      let width := e.model.pointerSize
      let space : AddressSpace :=
        if width == 4 then
          if all.contains .ptr64 then .ptr64
          else if all.contains .uptr then .ptr32Unsigned
          else .generic
        else if width == 8 && all.contains .ptr32 then
          if all.contains .uptr then .ptr32Unsigned else .ptr32Signed
        else .generic
      let p := if space == .generic then p else p.setQuals { p.quals with space }
      return .attributed w.attr t (.pointer {} p)
    | _ =>
      report w.pos (kw ++ " attribute only applies to pointer arguments")
      return t
  else
    let existing := (e.canonical t).quals.space
    if existing != .generic && existing != .target w.space then
      report w.pos "multiple address spaces specified for type"
      return t
    if e.isFunction t then
      report w.pos "function type may not be qualified with an address space"
      return t
    let t := t.addQuals { space := .target w.space }
    return .attributed .addressSpace t t

/-- Where a nullability among the declaration specifiers goes when the specifiers' type is no
pointer: to the first pointer step of the declarator from the type's side, past parentheses and
arrays and past the result of a function; with the kind of pointer it is, as the complaint about
the move names it. Nothing when no such step has a nullability of its own. -/
def nullabilityStep (cs : List Chunk) : Option (Nat × String) :=
  go cs 0 false
where
  /-- Looks from step `i` on; `inFunction` once a function's result has been passed. -/
  go : List Chunk → Nat → Bool → Option (Nat × String)
    | [], _, _ => none
    | c :: rest, i, inFunction =>
      match c with
      | .paren | .array .. => go rest (i + 1) inFunction
      | .pointer _ attrs =>
        if attrs.any (·.attr.isNullability) then none
        else some (i, if inFunction then "function pointer" else "pointer")
      | .blockPointer .. => some (i, "block pointer")
      | .function .. => go rest (i + 1) true
      | .reference .. => none

/-- Adds a type attribute to the pointer step at `i`. -/
def addToStep (w : WrittenAttr) : List Chunk → Nat → List Chunk
  | [], _ => []
  | .pointer q attrs :: rest, 0 => .pointer q (attrs ++ [w]) :: rest
  | c :: rest, 0 => c :: rest
  | c :: rest, i + 1 => c :: addToStep w rest i

/-- Applies the type attributes of the declaration specifiers to the specifiers' type; a
nullability on a type that is no pointer moves, with a complaint, to a pointer step of the
declarator (`nullabilityStep`). Returns the type and the steps. -/
def applySpecifierAttrs (ds : DeclSpec) : List WrittenAttr → Ty → List Chunk → Read (Ty × List Chunk)
  | [], t, cs => pure (t, cs)
  | w :: rest, t, cs => do
    let e ← entities
    if w.attr.isNullability && !canHaveNullability e t then
      match nullabilityStep cs with
      | some (i, kind) =>
        report w.pos ("nullability specifier '" ++ w.attr.keyword ++
          "' cannot be applied to non-pointer type " ++ (← quoteType t) ++
          "; did you mean to apply the specifier to the " ++ kind ++ "?")
        match cs[i]? with
        | some (.blockPointer ..) => applySpecifierAttrs ds rest t cs
        | _ => applySpecifierAttrs ds rest t (addToStep w cs i)
      | none => applySpecifierAttrs ds rest (← applyTypeAttr w t) cs
    else applySpecifierAttrs ds rest (← applyTypeAttr w t) cs

/-- Applies the steps of a declarator to a type, outermost first, reporting what C forbids. -/
def applyChunks (d : Declarator) : List Chunk → Ty → Read Ty
  | [], t => pure t
  | c :: rest, t => do
    let e ← entities
    match c with
    | .pointer q attrs =>
      match e.bare t with
      | .reference .. =>
        report d.namePos ("'" ++ d.entityName ++ "' declared as a pointer to a reference of type " ++
          (← quoteType t))
        applyChunks d rest .invalid
      | _ =>
        let p ← attrs.foldlM (fun acc w => applyTypeAttr w acc) (.pointer q t)
        applyChunks d rest p
    | .blockPointer q pos =>
      if !(← get).blocks then
        report pos "blocks support disabled - compile with -fblocks or pick a deployment target that supports them"
      if e.isFunction t then applyChunks d rest (.blockPointer q t)
      else
        report d.namePos "block pointer to non-function type is invalid"
        applyChunks d rest .invalid
    | .paren => applyChunks d rest t
    | .reference r pos =>
      match e.bare t with
      | .reference .. =>
        report pos ("'" ++ d.entityName ++ "' declared as a reference to a reference")
        applyChunks d rest t
      | .builtin _ .void =>
        report pos "cannot form a reference to 'void'"
        applyChunks d rest .invalid
      | _ => applyChunks d rest (.reference r t)
    | .array size iq st pos sizePos negative =>
      if e.isFunction t then
        report pos ("'" ++ d.entityName ++ "' declared as array of functions of type " ++ (← quoteType t))
      else if e.isIncomplete t then
        report pos ("array has incomplete element type " ++ (← quoteType t))
      else
        match e.layout Entities.depthLimit t with
        | some (sz, al) =>
          if al != 0 && sz % al != 0 then
            report pos ("size of array element of type " ++ (← quoteType t) ++ " (" ++ toString sz ++
              " bytes) isn't a multiple of its alignment (" ++ toString al ++ " bytes)")
          else if negative then
            report sizePos ("'" ++ d.entityName ++ "' declared as an array with a negative size")
          else if size matches .constant 0 then
            warn (.ext "zero-length-array") sizePos "zero size arrays are an extension"
        | none =>
          if negative then
            report sizePos ("'" ++ d.entityName ++ "' declared as an array with a negative size")
          else if size matches .constant 0 then
            warn (.ext "zero-length-array") sizePos "zero size arrays are an extension"
      applyChunks d rest (.array {} t size iq st)
    | .function params variadic proto pos _ idents ellipsis => do
      let mut result := t
      if e.isArray t || e.isFunction t then
        report pos ("function cannot return " ++ (if e.isFunction t then "function" else "array") ++
          " type " ++ (← quoteType t))
        result := .int
      if e.isHalf result then
        report d.namePos "function return value cannot have __fp16 type; did you forget * ?"
      match idents with
      | (_, p) :: _ =>
        if !d.definition then
          report p "a parameter list without types is only allowed in a function definition"
          applyChunks d rest (.function result [] false false)
        else
          -- a definition whose parameters are declared after its list has the type of a
          -- prototype of their promoted types
          let mut types : Array Ty := #[]
          for i in params do
            if let .param _ _ pt _ ← getDecl i then types := types.push (e.promotedForCall pt)
          applyChunks d rest (.function result types.toList false true)
      | [] =>
        if params.isEmpty && !variadic && !proto then
          applyChunks d rest (.function result [] false false)
        else
          if params.isEmpty && variadic && !(← c23) then
            match ellipsis with
            | some p => report p "ISO C requires a named parameter before '...'"
            | none => pure ()
          let types ← paramTypes params variadic pos (params.length == 1 && !variadic)
          applyChunks d rest (.function result types variadic true)

/-- The vector type that a `vector_size` attribute makes of an element type. The element is a
builtin integer other than `_Bool`, a real floating type, or a `_BitInt` of a power of two
bits from 8 on, and the size a nonzero multiple of its size; otherwise the attribute is
reported and the type is left as it is. -/
def vectorOf (v : VectorSize) (t : Ty) : Read Ty := do
  let e ← entities
  let bits ← match e.bare t with
    | .builtin _ b =>
      if b != .bool && (b.isInteger || b.isFloating) then pure (some (b.bitsIn e.model)) else pure none
    | .bitInt _ _ n =>
      if n < 8 then
        report v.pos "'_BitInt' vector element width must be at least as wide as 'CHAR_BIT'"
        return t
      else if n &&& (n - 1) != 0 then
        report v.pos "'_BitInt' vector element width must be a power of 2"
        return t
      else pure (some n)
    | _ => pure none
  match bits, v.size with
  | none, _ =>
    report v.pos ("invalid vector element type " ++ (← quoteType t))
    return t
  | some _, none =>
    report v.pos "'vector_size' attribute requires an integer constant"
    return t
  | some b, some bytes =>
    if bytes ≥ Nat.pow 2 60 then
      report v.pos "vector size too large"
      return t
    else if bytes == 0 then
      report v.pos "zero vector size"
      return t
    else if (8 * bytes) % b != 0 then
      report v.pos "vector size not an integral multiple of component size"
      return t
    else return .vector {} t (8 * bytes / b) false

/-- The extended vector type that an `ext_vector_type` attribute makes of an element type, the
attribute giving the number of elements. The element is an integer or real floating type,
`_Bool` and enums included; otherwise the attribute is reported and the type is left as it
is. -/
def extVectorOf (v : VectorSize) (t : Ty) : Read Ty := do
  let e ← entities
  match e.arithmetic? t, e.bare t with
  | none, _ =>
    report v.pos ("invalid vector element type " ++ (← quoteType t))
    return t
  | some _, .bitInt _ _ n =>
    if n < 8 then
      report v.pos "'_BitInt' vector element width must be at least as wide as 'CHAR_BIT'"
      return t
    else if n &&& (n - 1) != 0 then
      report v.pos "'_BitInt' vector element width must be a power of 2"
      return t
    else extVectorSized v t
  | some _, _ => extVectorSized v t
where
  /-- The extended vector once its element is known to be valid. -/
  extVectorSized (v : VectorSize) (t : Ty) : Read Ty := do
    match v.size with
    | none =>
      report v.pos "'ext_vector_type' attribute requires an integer constant"
      return t
    | some n =>
      if n ≥ Nat.pow 2 32 then
        report v.pos "vector size too large"
        return t
      else if n == 0 then
        report v.pos "zero vector size"
        return t
      else return .vector {} t n true

/-- Reports the specifiers that a member declaration or a type name does not allow, and drops
them: a storage class, `_Thread_local`, and the function specifiers. -/
def onlyTypeSpecifiers (ds : DeclSpec) : Read DeclSpec := do
  match ds.storagePos.orElse fun _ => ds.threadPos with
  | some p => report p "type name does not allow storage class to be specified"
  | none => pure ()
  for p in [ds.inlinePos, ds.noreturnPos].filterMap id do
    report p "type name does not allow function specifier to be specified"
  return { ds with storage := none, storagePos := none, threadPos := none, inline := false,
                   inlinePos := none, noreturnPos := none }

/-- Reports the function specifiers on a declaration that does not declare a function. -/
def functionSpecifiersOnObject (ds : DeclSpec) : Read Unit := do
  if let some p := ds.inlinePos then report p "'inline' can only appear on functions"
  if let some p := ds.noreturnPos then report p "'_Noreturn' can only appear on functions"

/-- What the name of a machine mode asks for, as the `mode` attribute reads it: a width in
bits (`0` for a name that means nothing), whether an integer, a complex or a real floating
type, and the floating type named by its letter (`K` for `__float128`, `I` for `__ibm128`). -/
structure MachineMode where
  width : Nat
  integer : Bool := true
  complex : Bool := false
  explicit : Option Char := none
deriving Inhabited, Repr

/-- Reads the name of a machine mode, without a vector count: two letters, the width (`Q` 8,
`H` 16, `S` 32, `D` 64, `X` 96, `T`, `K` and `I` 128) and the kind (`I` integer, `F` real,
`C` complex); or `byte`, `word`, `pointer` and `unwind_word`, the widths of a byte, of a
register and of a pointer, which are integers. -/
def readMachineMode (pointerBits : Nat) (s : String) : MachineMode :=
  match s.toList with
  | [a, b] =>
    let (width, explicit) : Nat × Option Char := match a with
      | 'Q' => (8, none)
      | 'H' => (16, none)
      | 'S' => (32, none)
      | 'D' => (64, none)
      | 'X' => (96, none)
      | 'K' => (if b == 'I' then 0 else 128, some 'K')
      | 'T' => (128, some 'T')
      | 'I' => (if b == 'I' then 0 else 128, some 'I')
      | _ => (0, none)
    if b == 'F' then { width, integer := false, explicit }
    else if b == 'C' then { width, integer := false, complex := true, explicit }
    else if b != 'I' then { width := 0, explicit }
    else { width, explicit }
  | _ =>
    match s with
    | "byte" => { width := 8 }
    | "word" | "pointer" | "unwind_word" => { width := pointerBits }
    | _ => { width := 0 }

/-- The integer type of a width in bits, signed or not: the first of `char`, `short`, `int`,
`long` and `long long` that has it, or `__int128` for 128 bits. -/
def integerOfWidth (m : TypeModel) (bits : Nat) (signed : Bool) : Option Builtin :=
  let b := [Builtin.signedChar, .short, .int, .long, .longLong].find? (fun b => b.bitsIn m == bits)
  let b := b.orElse fun _ => if bits == 128 then some .int128 else none
  b.map fun b => if signed then b else b.toUnsigned

/-- The real floating type of a width in bits: `__fp16`, `float` or `double` of their widths;
`long double` in the x87's 96 bits; at 128 bits the type the mode's letter names, or else
`long double` where it has 128 bits of its own, or else `__float128`. -/
def realOfWidth (m : TypeModel) (bits : Nat) (explicit : Option Char) : Option Builtin :=
  if bits == 16 then some .half
  else if bits == 32 then some .float
  else if bits == 64 then some .double
  else if bits == 96 then (if m.longDoubleFormat == .x87 then some .longDouble else none)
  else if bits == 128 then
    if explicit == some 'K' then (if m.float128 then some .float128 else none)
    else if explicit == some 'I' then (if m.ibm128 then some .ibm128 else none)
    else if m.longDoubleFormat == .doubleDouble || m.longDoubleFormat == .quad then some .longDouble
    else if m.float128 then some .float128
    else none
  else none

/-- The type that a `mode` attribute written at `pos` with the mode `name` gives a declaration
of type `t`. The mode's name may be written between double underscores, and may start with
`V` and a power of two, which asks for a vector of that many elements and is deprecated. An
integer mode wants an integer or enum type, a real one a floating type, a complex one a complex
type; a mismatch is an error, but the type is still replaced. A mode that names no type is an
error and leaves the type as it is. -/
def applyMode (pos : Position) (name : String) (t : Ty) : Read Ty := do
  let e ← entities
  let m := e.model
  let s := if name.length > 4 && name.startsWith "__" && name.endsWith "__" then
      String.ofList ((name.toList.drop 2).dropLast.dropLast) else name
  let digits := (s.toList.drop 1).takeWhile Char.isDigit
  let count := digits.foldl (fun n d => 10 * n + (d.toNat - 48)) 0
  let isVector := s.length ≥ 4 && s.startsWith "V" && !digits.isEmpty && count != 0 &&
    count &&& (count - 1) == 0
  let mode := readMachineMode (8 * m.pointerSize)
    (if isVector then String.ofList (s.toList.drop (1 + digits.length)) else s)
  if isVector then
    warn (.on "deprecated-attributes") pos ("specifying vector types with the 'mode' attribute is " ++
      "deprecated; use the 'vector_size' attribute instead")
  if mode.width == 0 then
    report pos ("unknown machine mode '" ++ name ++ "'")
    return t
  let oldVector := match e.bare t with
    | .vector _ el n _ => some (el, n)
    | _ => none
  let oldElem := (oldVector.map (·.1)).getD t
  let bareElem := e.bare oldElem
  let isEnum := match bareElem with
    | .tag _ i => (e.tag i).kind == .enum
    | _ => false
  if isEnum && isVector then
    report pos ("mode '" ++ name ++ "' is not supported for enumeration types")
    return t
  let arithmetic := e.arithmetic? oldElem
  let integral := isEnum || (arithmetic.any Builtin.isInteger && !(bareElem matches .bitInt ..))
  let isComplex := bareElem matches .complex ..
  let isBuiltin := bareElem matches .builtin ..
  if !isBuiltin && !isComplex && !integral then
    report pos "mode attribute only supported for integer and floating-point types"
  else if mode.integer then
    if !integral then report pos "type of machine mode does not match type of base type"
  else if mode.complex then
    if !isComplex then report pos "type of machine mode does not match type of base type"
  else if !(arithmetic.any Builtin.isFloating) then
    report pos "type of machine mode does not match type of base type"
  let signed := match arithmetic with
    | some b => b.isInteger && !b.isUnsignedIn m && b != .bool
    | none => false
  let newElem :=
    if mode.integer then integerOfWidth m mode.width signed else realOfWidth m mode.width mode.explicit
  match newElem with
  | none =>
    report pos ("unsupported machine mode '" ++ name ++ "'")
    return t
  | some b =>
    let el : Ty := if mode.complex then .complex {} (.builtin {} b) else .builtin {} b
    if isVector then return .vector {} el count false
    match oldVector with
    | some (oldEl, n) =>
      if mode.complex then
        report pos "type of machine mode does not support base vector types"
        return t
      let oldBits := ((e.arithmetic? oldEl).map (·.bitsIn m)).getD 0
      let newBits := b.bitsIn m
      return .vector {} el (if newBits == 0 then 0 else oldBits * n / newBits) false
    | none => return el

/-- The type that a declarator makes of its specifiers' type. `restrict` among the specifiers
must qualify a pointer; on another type it is reported and dropped. -/
def buildType (ds : DeclSpec) (d : Declarator) : Read Ty := do
  let mut base := d.trailing.getD ds.type
  let model := (← entities).model
  let unsupported := (ds.base == some "__int128" && !model.int128) ||
    (ds.base == some "__float128" && !model.float128) || (ds.base == some "__ibm128" && !model.ibm128)
  if unsupported then
    if let (some p, some b) := (ds.basePos, ds.base) then report p (b ++ " is not supported on this target")
  -- a decimal floating type is not supported, and stands for `int`
  if ["_Decimal32", "_Decimal64", "_Decimal128"].any (ds.base == some ·) then
    if let some p := ds.basePos then report p "GNU decimal type extension not supported"
  if let .bitInt n := ds.special then
    let unsigned := ds.sign == some true
    let problem :=
      if !unsigned && n < 2 then some "signed _BitInt must have a bit size of at least 2"
      else if unsigned && n < 1 then some "unsigned _BitInt must have a bit size of at least 1"
      else if n > 8388608 then
        some ((if unsigned then "unsigned" else "signed") ++
          " _BitInt of bit sizes greater than 8388608 not supported")
      else none
    if let some m := problem then
      report ds.start m
      base := .builtin ds.quals .int
  if let some p := ds.restrictPos then
    let e ← entities
    match e.bare base with
    | .pointer .. => pure ()
    | _ =>
      report p ("restrict requires a pointer or reference (" ++
        (← quoteType { ds with quals := {} }.type) ++ " is invalid)")
      base := { ds with quals := { ds.quals with restrict := false } }.type
  let (attributed, chunks) ← applySpecifierAttrs ds ds.typeAttrs.toList base d.chunks.reverse
  let t ← applyChunks d chunks attributed
  let t ← match d.vectorSize.orElse fun _ => ds.vectorSize with
    | some v => if v.extended then extVectorOf v t else vectorOf v t
    | none => pure t
  (ds.modes ++ d.modes).foldlM (fun t (pos, name) => applyMode pos name t) t

/-- The kinds of `format` attribute: those checked, and those taken without a check. -/
def formatKinds : List String :=
  ["NSString", "CFString", "strftime", "scanf", "printf", "printf0", "strfmon", "cmn_err",
   "vcmn_err", "zcmn_err", "kprintf", "freebsd_kprintf", "os_trace", "os_log"]

/-- The kinds of `format` attribute that are taken and ignored. -/
def ignoredFormatKinds : List String := ["gcc_diag", "gcc_cdiag", "gcc_cxxdiag", "gcc_tdiag"]

/-- Whether a parameter type may carry `nonnull`: a pointer or a block pointer. -/
def pointerParameter (e : Entities) (t : Ty) : Bool :=
  match e.bare t with
  | .pointer .. | .blockPointer .. => true
  | _ => false

/-- The parameter types of the prototype that a declaration of type `t` has or points to, and
whether more arguments may follow them. -/
def prototypeOf (e : Entities) (t : Ty) : Option (List Ty × Bool) :=
  let ofFunction (f : Ty) : Option (List Ty × Bool) := match e.bare f with
    | .function _ ps v true => some (ps, v)
    | _ => none
  match e.bare t with
  | .pointer _ p => ofFunction p
  | .blockPointer _ p => ofFunction p
  | _ => ofFunction t

/-- Checks a `nonnull` attribute against the prototype of its declaration: each argument must
be the number of a parameter, from one, or of a variadic argument, and a parameter it names
must be a pointer; with no pointer named, the function must have a pointer parameter. -/
def checkNonnull (a : AttrArguments) (ps : List Ty) (variadic : Bool) : Read Unit := do
  let e ← entities
  let mut named := false
  let mut i := 0
  for v in a.values do
    i := i + 1
    match v with
    | none =>
      report a.pos ("'nonnull' attribute requires parameter " ++ toString i ++
        " to be an integer constant")
      return
    | some k =>
      if k < 1 || (!variadic && k > ps.length) then
        report a.pos ("'nonnull' attribute parameter " ++ toString i ++ " is out of bounds")
        return
      match ps[k.toNat - 1]? with
      | some p =>
        if pointerParameter e p then named := true
        else warn (.on "ignored-attributes") a.pos "'nonnull' attribute only applies to pointer arguments"
      | none => named := true
  if !named && !variadic && !ps.any (pointerParameter e) then
    warn (.on "ignored-attributes") a.pos "'nonnull' attribute applied to function with no pointer arguments"

/-- Checks a `format` attribute against the prototype of its declaration, named at `namePos`:
a known kind, the number of the format parameter, a `char` pointer, and the number of the
first argument checked, which is `0` or the place of the `...`. -/
def checkFormat (namePos : Position) (a : AttrArguments) (ps : List Ty) (variadic : Bool) :
    Read Unit := do
  let e ← entities
  if a.values.length != 2 then
    report a.pos "'format' attribute requires exactly 3 arguments"
    return
  let some kind := a.ident
    | report a.pos "'format' attribute requires parameter 1 to be an identifier"
  let normal := if kind.length > 4 && kind.startsWith "__" && kind.endsWith "__" then
      String.ofList ((kind.toList.drop 2).dropLast.dropLast) else kind
  if ignoredFormatKinds.contains normal then return
  if !formatKinds.contains normal then
    warn (.on "ignored-attributes") a.pos ("'format' attribute argument not supported: " ++ normal)
    return
  let some idx := a.values.headD none
    | report a.pos "'format' attribute requires parameter 2 to be an integer constant"
  let count := ps.length
  let idx := if idx < 0 then idx + 4294967296 else idx
  if idx < 1 || idx > count then
    report a.pos "'format' attribute parameter 2 is out of bounds"
    return
  let isString := match ps[idx.toNat - 1]? with
    | some p =>
      match e.bare p with
      | .pointer _ q =>
        match e.bare q with
        | .builtin _ .char => true
        | _ => false
      | _ => false
    | none => false
  if !isString then
    report a.pos "format argument not a string type"
    return
  let some first := a.values.getD 1 none
    | report a.pos "'format' attribute requires parameter 3 to be an integer constant"
  let first := if first < 0 then first + 4294967296 else first
  let mut count := count
  if first != 0 then
    if variadic then count := count + 1
    else
      warn (.on "gcc-compat") namePos "GCC requires a function with the 'format' attribute to be variadic"
  if normal == "strftime" then
    if first != 0 then report a.pos "strftime format attribute requires 3rd parameter to be 0"
  else if first != 0 && first != count then
    report a.pos "'format' attribute parameter 3 is out of bounds"

/-- The text of a plain string literal, parentheses and casts around it taken off; nothing for
another expression. -/
def plainStringText? : Expr → Option String
  | .string .plain units => some (String.ofList (units.map Char.ofNat))
  | .paren x | .cast _ x => plainStringText? x
  | _ => none

/-- The result and parameter types of the prototype that a declaration of type `t` has or
points to. -/
def signatureOf (e : Entities) (t : Ty) : Option (Ty × List Ty) :=
  let ofFunction (f : Ty) : Option (Ty × List Ty) := match e.bare f with
    | .function r ps _ true => some (r, ps)
    | _ => none
  match e.bare t with
  | .pointer _ p => ofFunction p
  | .blockPointer _ p => ofFunction p
  | _ => ofFunction t

/-- Checks an `alloc_size` attribute against the prototype of its declaration: the function
must return a pointer, and each argument must be the number, from one, of an integer
parameter. -/
def checkAllocSize (a : AttrArguments) (result : Ty) (ps : List Ty) : Read Unit := do
  let e ← entities
  let isPointer := match e.bare result with
    | .pointer .. => true
    | _ => false
  if !isPointer then
    warn (.on "ignored-attributes") a.pos
      "'alloc_size' attribute only applies to return values that are pointers"
    return
  let mut i := 0
  for (v, place) in a.values.zip a.places do
    i := i + 1
    match v with
    | none =>
      report a.pos ("'alloc_size' attribute requires parameter " ++ toString i ++
        " to be an integer constant")
      return
    | some k =>
      if k < 1 || k > ps.length then
        report a.pos ("'alloc_size' attribute parameter " ++ toString i ++ " is out of bounds")
        return
      let integral := match ps[k.toNat - 1]? with
        | some p => (e.arithmetic? p).any Builtin.isInteger || (match e.bare p with
          | .tag _ j => (e.tag j).kind == .enum
          | _ => false)
        | none => false
      if !integral then
        report place "'alloc_size' attribute argument may only refer to a function parameter of integer type"
        return

/-- The function type of a declaration of type `t`: its own, or the one its pointer or block
pointer points to. -/
def functionTypeOf? (e : Entities) (t : Ty) : Option Ty :=
  let ofFunction (f : Ty) : Option Ty := match e.bare f with
    | r@(.function ..) => some r
    | _ => none
  match e.bare t with
  | .pointer _ p => ofFunction p
  | .blockPointer _ p => ofFunction p
  | _ => ofFunction t

/-- Checks a `malloc` attribute: it belongs on a function, and one that returns a pointer. -/
def checkMalloc (a : AttrArguments) (t : Ty) (isFunction : Bool) : Read Unit := do
  let e ← entities
  match isFunction, e.bare t with
  | true, .function r .. =>
    let isPointer := match e.bare r with
      | .pointer .. | .blockPointer .. => true
      | _ => false
    if !isPointer then
      warn (.on "ignored-attributes") a.pos
        ("'" ++ a.written ++ "' attribute only applies to return values that are pointers")
  | _, _ =>
    warn (.on "ignored-attributes") a.pos ("'" ++ a.written ++ "' attribute only applies to functions")

/-- Checks a `warn_unused_result` or `nodiscard` attribute: a function it applies to, or the one
a pointer points to, must return a value. -/
def checkUnusedResult (a : AttrArguments) (t : Ty) : Read Unit := do
  let e ← entities
  if let some (.function r ..) := functionTypeOf? e t then
    if let .builtin _ .void := e.bare r then
      warn (.on "ignored-attributes") a.pos
        ("attribute '" ++ a.written ++ "' cannot be applied to functions without return value")

/-- Checks the attributes with arguments of a declaration of type `t` named at `namePos`,
`isFunction` when it declares a function: `nonnull` and `format` want a function with a
prototype, or a pointer to one, and are checked against its parameters; `cleanup` wants a local
variable, which a header does not declare; `malloc` and `warn_unused_result` look at what the
function returns. -/
def checkArguedAttrs (namePos : Position) (attrs : List AttrArguments) (t : Ty)
    (isFunction : Bool) : Read Unit := do
  let e ← entities
  for a in attrs do
    match a.name, prototypeOf e t with
    | "malloc", _ => checkMalloc a t isFunction
    | "warn_unused_result", _ | "nodiscard", _ => checkUnusedResult a t
    | "nonnull", some (ps, v) => checkNonnull a ps v
    | "nonnull", none =>
      warn (.on "ignored-attributes") a.pos
        "'nonnull' attribute only applies to functions, methods, and parameters"
    | "format", some (ps, v) => checkFormat namePos a ps v
    | "format", none =>
      warn (.on "ignored-attributes") a.pos
        "'format' attribute only applies to Objective-C methods, blocks, and non-K&R-style functions"
    | "alloc_size", _ =>
      match signatureOf e t with
      | some (r, ps) => checkAllocSize a r ps
      | none =>
        warn (.on "ignored-attributes") a.pos
          "'alloc_size' attribute only applies to non-K&R-style functions"
    | "cleanup", _ =>
      warn (.on "ignored-attributes") a.pos "'cleanup' attribute only applies to local variables"
    | _, _ => pure ()

/-- Reports a declaration that names no type where C asks for one. -/
def checkImplicitInt (ds : DeclSpec) (d : Declarator) : Read Unit := do
  if !ds.hasType then
    let s ← get
    if s.standard.atLeast99 then
      if s.standard == .c23 then
        report d.namePos "a type specifier is required for all declarations"
      else
        warn (.error "implicit-int") d.namePos
          "type specifier missing, defaults to 'int'; ISO C99 and later do not support implicit int"
    else warn (.off "implicit-int") d.namePos "type specifier missing, defaults to 'int'"

/-- Reports a declaration at file scope, named at `pos`, whose type is variably modified: an
array whose size is no constant, or a type made from one. Such types need a block scope. -/
def fileScopeVariablyModified (pos : Position) (t : Ty) : Read Unit := do
  let e ← entities
  if e.variablyModified Entities.depthLimit t then
    match e.bare t with
    | .array _ _ (.variable _) _ _ => report pos "variable length array declaration not allowed at file scope"
    | _ => report pos "variably modified type declaration not allowed at file scope"

/-- What a declarator shows inside it. -/
def innerOf (ds : DeclSpec) (d : Declarator) : Inner := ⟨ds.tagUse?, d.innerParams⟩

/-- Whether a typedef may name again a type that Objective-C declares itself, which the name then
keeps: `Class` and `SEL` with any type, `id` with a pointer to `void` or to a structure. -/
def objcRedefinable (e : Entities) (n : String) (t : Ty) : Bool :=
  n == "Class" || n == "SEL" ||
    (n == "id" &&
      match e.bare t with
      | .pointer _ p =>
        match e.bare p with
        | .builtin _ .void => true
        | .tag _ i => (e.tag i).kind == .struct
        | _ => false
      | _ => false)

/-- Declares a typedef name. -/
def declareTypedef (ds : DeclSpec) (d : Declarator) (t : Ty) : Read Unit := do
  let name := d.name.getD ""
  functionSpecifiersOnObject ds
  match ds.defines with
  | some tagId =>
    let e ← entities
    let td := e.tag tagId
    if td.name.isNone && td.typedefName.isNone && !td.invalid &&
        e.canonical t == .tag {} tagId then
      modifyTag tagId fun x => { x with typedefName := some name }
  | none => pure ()
  let mut keepsBuiltin := none
  match ← lookupNameHere name with
  | some (.typedef j) =>
    let old := (← entities).typedef j
    match old.pos, old.underlying with
    | none, .objcObject _ n =>
      if objcRedefinable (← entities) n t then keepsBuiltin := some j
      else if n != "id" then
        report d.namePos ("redefinition of '" ++ name ++ "' as different kind of symbol")
      else
        report d.namePos ("typedef redefinition with different types (" ++ (← quoteType t) ++
          " vs " ++ (← quoteType old.underlying) ++ ")")
    | _, _ =>
      if !(← sameType old.underlying t) then
        report d.namePos ("typedef redefinition with different types (" ++ (← quoteType t) ++
          " vs " ++ (← quoteType old.underlying) ++ ")")
  | some _ => report d.namePos ("redefinition of '" ++ name ++ "' as different kind of symbol")
  | none => pure ()
  fileScopeVariablyModified d.namePos t
  let id ← newTypedef { name, underlying := t, pos := some d.namePos, aligned := max ds.aligned d.aligned,
                        scope := ← shownScope }
  bindName name (.typedef (keepsBuiltin.getD id))
  let di ← addDecl (.typedef id d.namePos (innerOf ds d))
  place di

/-- Whether a function declarator was written with a parameter type list, and how many
parameters it gives; a function declared through a typedef takes both from its type. -/
def writtenPrototype (e : Entities) (d : Declarator) (t : Ty) : Bool × Nat :=
  match d.functionChunk? with
  | some (.function ps _ prototyped ..) => (prototyped, ps.length)
  | _ =>
    match e.bare t with
    | .function _ ps _ prototyped => (prototyped, ps.length)
    | _ => (true, 0)

/-- Warns, in C before C23, when a function is declared again with a parameter type list where
the latest declaration had none, or without one where it had one, and the one with the list
has parameters: the declaration without the list means something else in C23. The warning
stands at the declaration without the list. -/
def warnPrototypeChange (name : String) (pos : Position) (written : Bool × Nat)
    (isDefinition : Bool) : Read Unit := do
  let s ← get
  if s.cxx || s.standard == .c23 then return
  let some old := s.functions.find? (·.name == name) | return
  if written.1 == old.prototyped then return
  let withParams := if written.1 then written.2 else old.params
  if withParams == 0 then return
  let newWithout := !written.1
  let (place, withoutParams) := if newWithout then (pos, written.2) else (old.pos, old.params)
  let kind := if newWithout && isDefinition then "definition" else "declaration"
  let tail := if withoutParams != 0 then "and is not supported in C23"
    else "and is treated as a zero-parameter prototype in C23, conflicting with a " ++
      (if newWithout then "previous" else "subsequent") ++ " " ++
      (if !newWithout && isDefinition then "definition" else "declaration")
  warn (.on "deprecated-non-prototype") place
    ("a function " ++ kind ++ " without a prototype is deprecated in all versions of C " ++ tail)

/-- Declares a function. -/
def declareFunction (ds : DeclSpec) (d : Declarator) (t : Ty) (isDefinition : Bool) : Read Unit := do
  let name := d.name.getD ""
  let mut bindIt := true
  let mut t := t
  let mut inherited := false
  let isStatic := ds.storage == some "static"
  let mut internal := isStatic
  if ds.storage == some "register" || ds.storage == some "auto" then
    if let some p := ds.storagePos then report p "illegal storage class on function"
  let overloadable := ds.overloadable || d.overloadable
  let e ← entities
  -- C++ overloads a function on its parameter types: a declaration with other parameter
  -- types declares another function of the name
  let previous ← if (← get).cxx then do
      let here := (((← get).scopes.head?.map (·.names)).getD []).filter (·.1 == name)
      let sameParams (old : Ty) : Bool :=
        match e.canonical old, e.canonical t with
        | .function _ ps v _, .function _ qs w _ =>
          v == w && ps.map (·.setQuals {}) == qs.map (·.setQuals {})
        | _, _ => false
      match here.find? (fun (_, b) => match b with
          | .function old .. => sameParams old
          | _ => false) with
      | some (_, b) => pure (some b)
      | none =>
        match here.head? with
        | some (_, .function ..) => pure none
        | some (_, b) => pure (some b)
        | none => pure none
    else lookupNameHere name
  match previous with
  | some (.function old defined oldInternal oldOverloadable) =>
    let e ← entities
    internal := isStatic || oldInternal
    if overloadable && oldOverloadable && !compatibleRedeclaration e old t isDefinition then
      pure ()
    else if isStatic && !oldInternal then
      report d.namePos ("static declaration of '" ++ name ++ "' follows non-static declaration")
      bindIt := false
    else if !compatibleRedeclaration e old t isDefinition then
      report d.namePos ("conflicting types for '" ++ name ++ "'")
      bindIt := false
    else
      warnPrototypeChange name d.namePos (writtenPrototype e d t) isDefinition
      if let some merged := inheritPrototype e old t then
        t := merged
        inherited := true
    if !bindIt then pure ()
    else if defined && isDefinition then
      report d.namePos ("redefinition of '" ++ name ++ "'")
    else if defined then
      bindIt := false
  | some _ =>
    report d.namePos ("redefinition of '" ++ name ++ "' as different kind of symbol")
    bindIt := false
  | none => pure ()
  if bindIt then bindName name (.function t isDefinition internal overloadable)
  let (params, declared) ← match if inherited then none else d.functionChunk? with
    | some (.function ps _ _ _ declared _ _) => pure (ps, declared)
    | _ => do
      let e ← entities
      let types := match e.bare t with
        | .function _ ps _ _ => ps
        | _ => []
      let mut ids : Array Nat := #[]
      for pt in types do
        ids := ids.push (← addDecl (.param "" d.namePos pt {}))
      pure (ids.toList, [])
  unplace declared
  let di ← addDecl (.function name d.namePos t params (innerOf ds d))
  place di
  let (prototyped, count) := writtenPrototype e d t
  modify fun s => { s with functions := ⟨name, d.namePos, prototyped, count⟩ :: s.functions }

/-- Declares a variable at the top level. -/
def declareVariable (ds : DeclSpec) (d : Declarator) (t : Ty) (initialized : Bool) : Read Unit := do
  let name := d.name.getD ""
  let e ← entities
  if ds.storage == some "register" || ds.storage == some "auto" then
    report d.namePos "illegal storage class on file-scoped variable"
  functionSpecifiersOnObject ds
  let mut bound := t
  let isStatic := ds.storage == some "static"
  let isExtern := ds.storage == some "extern"
  let mut internal := isStatic
  let mut bindIt := true
  match ← lookupNameHere name with
  | some (.object old oldInternal) =>
    match e.bare old, e.bare t with
    | .array _ _ (.constant _) _ _, .array _ _ .incomplete _ _ => bound := old
    | _, _ => pure ()
    if !e.compatibleTypes old t then
      report d.namePos ("redefinition of '" ++ name ++ "' with a different type: " ++ (← quoteType t) ++
        " vs " ++ (← quoteType old))
    else if isStatic && !oldInternal then
      report d.namePos ("static declaration of '" ++ name ++ "' follows non-static declaration")
      bindIt := false
    else if isExtern then internal := oldInternal
    else if !isStatic && oldInternal then
      report d.namePos ("non-static declaration of '" ++ name ++ "' follows static declaration")
      bindIt := false
  | some _ => report d.namePos ("redefinition of '" ++ name ++ "' as different kind of symbol")
  | none => pure ()
  let external := ds.storage == some "extern"
  if e.isVoid t && !external then
    report d.namePos ("variable has incomplete type " ++ (← quoteType t))
  else if (e.tagOf? t).isSome && e.isIncomplete t && !external then
    -- C++ has no tentative definitions
    if initialized || (← get).cxx then report d.namePos ("variable has incomplete type " ++ (← quoteType t))
    else modify fun s => { s with tentative := s.tentative.push (name, d.namePos, t) }
  else if !initialized && !external && !isStatic && !(← get).cxx &&
      (e.bare t matches .array _ _ .incomplete _ _) then
    modify fun s => { s with tentative := s.tentative.push (name, d.namePos, t) }
  fileScopeVariablyModified d.namePos t
  if ds.special matches .error then bindName name .invalid
  else if bindIt then bindName name (.object bound internal)
  let di ← addDecl (.variable name d.namePos t (innerOf ds d))
  place di

/-- Declares a static data member of a C++ record, in the record's scope: a constant when it
is `constexpr`, or `const` of integer type, with a constant value. -/
def declareStaticMember (ds : DeclSpec) (d : Declarator) (t : Ty) (value : Option Constant) :
    Read Unit := do
  let e ← entities
  let name := d.name.getD ""
  let integral := (e.arithmetic? t).any Builtin.isInteger
  match value with
  | some c =>
    if integral && (ds.constexpr || t.isConst || (e.bare t).isConst) then
      bindName name (.constant (Constant.wrap e.model c.value ((e.arithmetic? t).getD .int)).value t)
    else bindName name (.object t false)
  | none => bindName name (.object t false)

/-- Declares a parameter, giving its declaration's number. -/
def declareParam (ds : DeclSpec) (d : Declarator) (t : Ty) : Read Nat := do
  match ds.storage, ds.storagePos with
  | some s, some p =>
    if s != "register" then report p "invalid storage class specifier in function declarator"
  | _, _ => pure ()
  let e ← entities
  let adjusted := e.adjustParam t
  let name := d.name.getD ""
  if !name.isEmpty then
    match ← lookupNameHere name with
    | some (.object ..) => report d.namePos ("redefinition of parameter '" ++ name ++ "'")
    | _ => pure ()
    bindName name (.object adjusted false)
  addDecl (.param name d.namePos adjusted (innerOf ds d))

/-- The members of the records being defined: names declared so far, innermost record
first. -/
def memberNames (tagId : Nat) : Read (List String) := do
  let e ← entities
  let rec names : Nat → List Member → List String
    | 0, _ => []
    | _, [] => []
    | fuel + 1, ⟨n, t, _, _, _⟩ :: rest =>
      (if n.isEmpty then
        match e.tagOf? t with
        | some i => names fuel (e.tag i).members
        | none => []
      else [n]) ++ names fuel rest
  return names Entities.depthLimit (e.tag tagId).members

/-- The width in bits of an integer or enum type, sugar aside; none for other types and for
an enum that has not been defined. -/
def intWidthOf (e : Entities) (t : Ty) : Option Nat :=
  match e.bare t with
  | .builtin _ b => if b.isInteger then some (b.bitsIn e.model) else none
  | .bitInt _ _ n => some n
  | .tag _ i =>
    let d := e.tag i
    if d.kind == .enum && d.complete then
      match d.enumType.map e.bare with
      | some (.builtin _ b) => some (b.bitsIn e.model)
      | _ => some 32
    else none
  | _ => none

/-- Checks the width of a bit-field: its type must be an integer or enum type, and the width a
constant, not zero for a named field, not negative, and no more than the bits of the type. -/
def checkBitField (name : String) (pos : Position) (t : Ty) (w : Expr) (wpos : Position) :
    Read (Option Nat) := do
  let e ← entities
  let quoted := "'" ++ name ++ "'"
  match intWidthOf e t with
  | none =>
    if e.isIncomplete t then report pos ("field has incomplete type " ++ (← quoteType t))
    else if name.isEmpty then report pos ("anonymous bit-field has non-integral type " ++ (← quoteType t))
    else report pos ("bit-field " ++ quoted ++ " has non-integral type " ++ (← quoteType t))
    return none
  | some bits =>
    match ← checkedConstant w with
    | none =>
      report (← notConstantPlace w wpos) "expression is not an integer constant expression"
      return none
    | some c =>
      if c.value == 0 && !name.isEmpty then
        report pos ("named bit-field " ++ quoted ++ " has zero width")
        return none
      else if c.value < 0 then
        if name.isEmpty then report pos ("anonymous bit-field has negative width (" ++ toString c.value ++ ")")
        else report pos ("bit-field " ++ quoted ++ " has negative width (" ++ toString c.value ++ ")")
        return none
      else if c.value > bits then
        let field := if name.isEmpty then "anonymous bit-field" else "bit-field " ++ quoted
        report pos ("width of " ++ field ++ " (" ++ toString c.value ++ " bits) exceeds the width of its type (" ++
          toString bits ++ (if bits == 1 then " bit)" else " bits)"))
        return none
      else return some c.value.toNat

/-- Declares a member of a record. -/
def declareField (tagId : Nat) (ds : DeclSpec) (d : Declarator) (t : Ty)
    (width : Option (Expr × Position)) (aligned : Nat) (packed : Bool) : Read Unit := do
  let e ← entities
  let name := d.name.getD ""
  let pos := if d.name.isSome then d.namePos else ds.start
  let element := match e.bare t with
    | .array _ el .incomplete _ _ => el
    | _ => t
  if !e.isFunction t && e.isIncomplete element then
    report pos ("field has incomplete type " ++ (← quoteType element))
  match e.bare t with
  | .array _ _ (.variable _) _ _ =>
    report pos "fields must have a constant size: 'variable length array in structure' extension will never be supported"
  | _ => pure ()
  let bits ← match width with
    | some (w, wpos) => checkBitField name pos t w wpos
    | none => pure none
  if !name.isEmpty && (← memberNames tagId).contains name then
    report pos ("duplicate member '" ++ name ++ "'")
    return
  let di ← addDecl (.field name pos t)
  place di
  modifyTag tagId fun x => { x with members := x.members ++ [{ name, type := t, bits, aligned, packed }] }

/-- Checks the members of a record whose body has been read. -/
def finishMembers (tagId : Nat) (fields : List Nat) : Read Unit := do
  let e ← entities
  let td := e.tag tagId
  let mut rest := fields
  let mut named := 0
  for i in fields do
    rest := rest.drop 1
    match ← getDecl i with
    | .field name pos t =>
      if e.isFunction t then
        report pos ("field '" ++ name ++ "' declared as a function")
      else
        match e.bare t with
        | .array _ _ .incomplete _ _ =>
          if td.kind != .union && !rest.isEmpty then
            report pos ("flexible array member '" ++ name ++ "' with type " ++ (← quoteType t) ++
              " is not at the end of " ++ td.kind.keyword)
          else if td.kind == .union then
            report pos ("flexible array member '" ++ name ++ "' in a union is not allowed")
          else if named < 1 then
            report pos ("flexible array member '" ++ name ++ "' not allowed in otherwise empty " ++
              td.kind.keyword)
        | _ => pure ()
      if !name.isEmpty then named := named + 1
    | _ => pure ()

/-- How a tag is written: as a use, as a declaration on its own (`struct S;`), or as a
definition. -/
inductive TagWriting where
  | use
  | declaration
  | definition
deriving DecidableEq

/-- Acts on a struct, union or enum specifier: finds or makes its tag, and makes the
declaration that the specifier writes, if it writes one. Gives the tag and that declaration. -/
def actOnTag (kind : TagKind) (kwPos : Position) (name : Option (String × Position × Nat))
    (writing : TagWriting) : Read (Nat × Option Nat) := do
  let scope ← shownScope
  -- C++ takes `struct` and `class` for one another
  let mismatch (n : String) (old : TagKind) : Read Unit := do
    if !((← get).cxx && old != .union && old != .enum && kind != .union && kind != .enum) then
      report kwPos ("use of '" ++ n ++ "' with tag type that does not match previous declaration")
  -- an enum declared without its body is an extension, and so is one declared again after it
  let enumAhead (p : Position) (defined : Option String) : Read Unit := do
    let s ← get
    if kind != .enum || writing == .definition || s.cxx then return
    match defined with
    | some n =>
      warn (.ext "gnu-redeclared-enum") p ("redeclaration of already-defined enum '" ++ n ++
        "' is a GNU extension")
    | none =>
      if s.msvcCompat then
        warn (.extWarn "microsoft-enum-forward-reference") p
          "forward references to 'enum' types are a Microsoft extension"
      else warn (.ext "") p "ISO C forbids forward references to 'enum' types"
  -- a tag of C first declared in a parameter list belongs to the function alone
  let fresh (n : String) (p : Position) (tok : Nat) (k : TagKind) : Read (Nat × Option Nat) := do
    enumAhead p none
    if !(← get).cxx && ((← get).scopes.head?.any (·.prototype)) then
      warn (.on "visibility") p ("declaration of '" ++ k.keyword ++ " " ++ n ++
        "' will not be visible outside of this function")
    let i ← newTag { kind := k, name := some n, pos := p, beingDefined := writing == .definition, scope }
    let di ← addDecl (.tag i p (some tok) false [])
    bindTag n i
    modifyScope fun sc => { sc with declared := di :: sc.declared }
    place di
    return (i, some di)
  -- a struct taken for a union or the other way round is still the same tag; an enum taken for
  -- a record, or a record for an enum, makes a new tag without a name
  let otherKind (old : TagDef) : Bool := old.kind != kind && (old.kind == .enum || kind == .enum)
  let anonymous (p : Position) (tok : Nat) (withDecl : Bool) : Read (Nat × Option Nat) := do
    let j ← newTag { kind, name := none, pos := p, invalid := true,
                     beingDefined := writing == .definition, scope }
    if !withDecl then return (j, none)
    let di ← addDecl (.tag j p (some tok) false [])
    place di
    return (j, some di)
  match name with
  | none =>
    let i ← newTag { kind, name := none, pos := kwPos, beingDefined := writing == .definition, scope }
    let di ← addDecl (.tag i kwPos none false [])
    place di
    return (i, some di)
  | some (n, p, tok) =>
    match writing with
    | .use =>
      match ← lookupTag n with
      | some i =>
        let old := (← entities).tag i
        if old.kind != kind then mismatch n old.kind
        if otherKind old then anonymous p tok false else return (i, none)
      | none => fresh n p tok kind
    | .declaration =>
      match ← lookupTagHere n with
      | some i =>
        let old := (← entities).tag i
        if old.kind != kind then mismatch n old.kind
        if otherKind old then anonymous p tok true
        else
          enumAhead p (if old.complete then some n else none)
          let di ← addDecl (.tag i p (some tok) false [])
          place di
          return (i, some di)
      | none => fresh n p tok kind
    | .definition =>
      match ← lookupTagHere n with
      | some i =>
        let old := (← entities).tag i
        if old.kind != kind then mismatch n old.kind
        if otherKind old then return ← anonymous p tok true
        if old.complete then
          report p ("redefinition of '" ++ n ++ "'")
          let j ← newTag { kind := old.kind, name := none, pos := p, invalid := true, beingDefined := true }
          let di ← addDecl (.tag j p (some tok) false [])
          place di
          return (j, some di)
        if old.beingDefined then
          report p ("nested redefinition of '" ++ n ++ "'")
          let j ← newTag { kind := old.kind, name := none, pos := p, invalid := true, beingDefined := true }
          let di ← addDecl (.tag j p (some tok) false [])
          place di
          return (j, some di)
        modifyTag i fun x => { x with pos := p, beingDefined := true }
        let di ← addDecl (.tag i p (some tok) false [])
        place di
        return (i, some di)
      | none => fresh n p tok kind

/-- Completes the definition of a record or enum whose body has been read. -/
def completeTag (tagId : Nat) (declId : Nat) (members : List Nat) : Read Unit := do
  modifyTag tagId fun x => { x with complete := true, definition := some declId, beingDefined := false }
  match ← getDecl declId with
  | .tag i p tok _ _ => setDecl declId (.tag i p tok true members)
  | _ => pure ()

/-- The number of bits a value needs: without sign for a value that is not negative, with
sign otherwise. -/
def bitsNeeded (v : Int) : Nat :=
  if v ≥ 0 then (Nat.log2 v.toNat) + (if v == 0 then 0 else 1)
  else Nat.log2 (-v - 1).toNat + (if v == -1 then 1 else 2)

/-- The integer type of an enum without a written one, from its enumerators' values. -/
def enumTypeFor (tm : TypeModel) (values : List Int) (packed : Bool) : Builtin :=
  let long := 8 * tm.longSize
  let pos := values.foldl (fun m v => if v ≥ 0 then max m (max (bitsNeeded v) 1) else m) 0
  let neg := values.foldl (fun m v => if v < 0 then max m (bitsNeeded v) else m) 0
  let pos := if pos == 0 && neg == 0 then 1 else pos
  if neg > 0 then
    if packed && neg ≤ 8 && pos < 8 then .signedChar
    else if packed && neg ≤ 16 && pos < 16 then .short
    else if neg ≤ 32 && pos < 32 then .int
    else if neg ≤ long && pos < long then .long
    else .longLong
  else
    if packed && pos ≤ 8 then .unsignedChar
    else if packed && pos ≤ 16 then .unsignedShort
    else if pos ≤ 32 then .unsignedInt
    else if pos ≤ long then .unsignedLong
    else .unsignedLongLong

/-- The next wider integer type of the same signedness among `short`, `int`, `long` and
`long long`, if there is one. -/
def widerInteger (tm : TypeModel) (b : Builtin) : Option Builtin :=
  let ladder : List Builtin := if b.isUnsignedIn tm then
      [.unsignedShort, .unsignedInt, .unsignedLong, .unsignedLongLong]
    else [.short, .int, .long, .longLong]
  ladder.find? (·.sizeIn tm > b.sizeIn tm)

/-- The value and type of an enumerator written without a value: one more than the one
before, in its type, or in the next wider type when it does not fit; when there is no wider
type it wraps. -/
def nextEnumerator (tm : TypeModel) (prev : Option (Int × Builtin)) : Int × Builtin :=
  match prev with
  | none => (0, .int)
  | some (v, t) =>
    if Constant.fits tm (v + 1) t then (v + 1, t)
    else
      match widerInteger tm t with
      | some w => (v + 1, w)
      | none => ((Constant.wrap tm (v + 1) t).value, t)

/-- The value and type of an enumerator written with a constant: the constant, typed `int` when
it fits one and with its own type otherwise. -/
def writtenEnumerator (tm : TypeModel) (c : Constant) : Int × Builtin :=
  if Constant.fits tm c.value .int then (c.value, .int) else (c.value, c.type)

/-- The value and type that an enumerator keeps once its enum is complete: `int` when the value
fits one, and the enum's integer type otherwise, the value converted to it. -/
def finalEnumerator (tm : TypeModel) (enumType : Builtin) (v : Int) : Int × Builtin :=
  if Constant.fits tm v .int then (v, .int) else ((Constant.wrap tm v enumType).value, enumType)

/-- Declares an enumerator with a value and type. -/
def declareEnumerator (name : String) (pos : Position) (value : Int) (type : Builtin) :
    Read Unit := do
  match ← lookupNameHere name with
  | some (.enumerator ..) => report pos ("redefinition of enumerator '" ++ name ++ "'")
  | some _ => report pos ("redefinition of '" ++ name ++ "' as different kind of symbol")
  | none => pure ()
  bindName name (.enumerator value (.builtin {} type))

/-- Whether an initializer is a string literal, in parentheses or not. -/
def isStringInitializer : Expr → Bool
  | .string .. => true
  | .paren a => isStringInitializer a
  | _ => false

/-- The code units of a string literal initializer. -/
def stringInitializerUnits : Expr → List Nat
  | .string _ units => units
  | .paren a => stringInitializerUnits a
  | _ => []

/-- The type that an initializer gives an array of unknown size: as many elements as it
initializes. -/
def completedArray (e : Entities) (t : Ty) (init : Expr) : Ty :=
  match t with
  | .array q el .incomplete iq st =>
    match e.initializedLength el init with
    | some n => .array q el (.constant n) iq st
    | none => t
  | _ => t

/-- The type of the elements of an array, of arrays of arrays too, or else the type itself. -/
def baseElementType (e : Entities) : Nat → Ty → Ty
  | 0, t => t
  | n + 1, t =>
    match e.bare t with
    | .array _ el .. => baseElementType e n el
    | b => b

/-- The arithmetic type that a warning about a changed value reasons about: a builtin type or
the integer type of an enum; a bit-precise integer type is left out. -/
def changedValueType? (e : Entities) (t : Ty) : Option Builtin :=
  match e.bare t with
  | .bitInt .. => none
  | _ => e.arithmetic? t

/-- The bits an integer constant needs, as they are counted to decide whether a type holds it:
the two's complement digits of a negative value, its sign included, and the binary digits of
any other; with whether the value is not negative. -/
def valueBits (v : Int) : Nat × Bool :=
  let binaryLength (n : Nat) : Nat := if n == 0 then 0 else Nat.log2 n + 1
  if v < 0 then (binaryLength (-v - 1).toNat + 1, false) else (binaryLength v.toNat, true)

/-- Warns when converting the initializer `init` to the type `target` of its variable changes
its value; `pos` is where the initializer starts inside the parentheses around it. An integer
constant is warned about when the integer type cannot hold it; when it is a positive value of
a signed type that a signed type of the same width makes negative, unless it is written in hex,
octal or binary; and when a floating type with fewer bits of precision rounds it. A floating
literal is warned about when an integer type truncates it or cannot hold it. Conversions of
integers to `_Bool`, and of floating values that are not literals, are not warned about. -/
def warnChangedValue (target : Ty) (init : Expr) (pos : Position) : Read Unit := do
  let e ← entities
  let tm := e.model
  let inner := (withoutParens Entities.depthLimit init).1
  let sourceTy := e.exprType inner
  let place := Expr.place pos Entities.depthLimit inner
  match changedValueType? e sourceTy, changedValueType? e target with
  | some s, some t =>
    if e.canonical sourceTy == e.canonical target then return
    let shownSource ← quoteType sourceTy
    let shownTarget ← quoteType target.unqualified
    let changes (a b : String) : String :=
      "implicit conversion from " ++ shownSource ++ " to " ++ shownTarget ++ " changes value from " ++
        a ++ " to " ++ b
    if s.isFloating then
      if let .floating v _ := inner then
        if t.isInteger then
          let whole := v.truncate?
          let exact := match v.fraction? with
            | some (n, d) => n % (d : Int) == 0
            | none => false
          let fits := whole.any fun n => Constant.fits tm n t
          if fits && exact then return
          if !fits && t != .bool then
            warn (.on "float-overflow-conversion") place ("implicit conversion of out of range value from " ++ shownSource ++
              " to " ++ shownTarget ++ " is undefined")
          else
            let result := if t == .bool then (if v.isZero then "false" else "true")
              else toString (whole.getD 0)
            warn (.on "literal-conversion") place (changes (v.printDigits s.binaryFormat.warningDigits) result)
    else if let some c := e.constantValue inner then
      let (bits, nonNegative) := valueBits c.value
      if t.isFloating then
        let f := t.binaryFormat
        let rounded := f.ofInt c.value
        if bits > f.precision && rounded.truncate? != some c.value then
          warn (.on "implicit-const-int-float-conversion") place
            (changes (toString c.value) (rounded.printDigits f.precision))
      else if t != .bool then
        let width := t.bitsIn tm
        let writtenInBase := match inner with
          | .integer _ _ text => text.startsWith "0"
          | _ => false
        if bits > width || (bits == width && !t.isUnsignedIn tm && nonNegative &&
            !s.isUnsignedIn tm && !writtenInBase) then
          warn (.on "constant-conversion") place
            (changes (toString c.value) (toString (Constant.wrap tm c.value t).value))
  | _, _ => pure ()

/-- Checks the initializer of a variable of type `t` at file scope, which starts at `start`.
An array takes a braced list or a string literal, and a string no longer than it; any other
value converts to the variable's type as assignment does; and the value must be a constant.
What cannot be used is not checked further. A value that is converted is placed at its start
when it is not a constant, as the conversion is what fails. A value that the conversion
changes is warned about when `inner` gives where it starts inside its parentheses. An
`extern` variable is warned about before the value is checked, unless it is a C++ one of a
`const` type, which `extern` gives external linkage. -/
def checkInitializer (d : Declarator) (t : Ty) (init : Expr) (start : Position) (isExtern : Bool)
    (inner : Option Position) : Read Unit := do
  let e ← entities
  for (pos, w, m) in e.operatorWarnings true Entities.depthLimit init do warn w pos m
  let mut usable := true
  match init with
  | .initList _ => pure ()
  | _ =>
    match e.bare t with
    | .array _ el size _ _ =>
      let element := (e.arithmetic? el).getD .void
      if !isStringInitializer init then
        let kind := if [Builtin.char, .signedChar, .unsignedChar].contains element then " or string literal"
          else if [Builtin.int, .unsignedShort, .unsignedInt].contains element then " or wide string literal"
          else ""
        report d.namePos ("array initializer must be an initializer list" ++ kind)
        usable := false
      else
        match size with
        | .constant n =>
          if (stringInitializerUnits init).length > n then
            warn (.extWarn "excess-initializers") start "initializer-string for char array is too long"
        | _ => pure ()
    | _ =>
      let source := e.exprType init
      let c := e.conversion t (e.valueType init) (e.isNullPointer Entities.depthLimit init)
      if let some m := c.message .initializing (← quoteType t) (← quoteType source) (e.conversionHint t source init) then
        match c.warning? with
        | some w => warn w d.namePos m
        | none => report d.namePos m
      usable := !c.fatal
  if usable then
    if let some pos := inner then
      if !(init matches .initList _) then warnChangedValue t init pos
    warnOverflows (e.fullExpressionOverflows Entities.depthLimit init)
    if isExtern && (!(← get).cxx || !(baseElementType e Entities.depthLimit t).isConst) then
      warn (.on "extern-initializer") d.namePos "'extern' variable has an initializer"
    let culprit : Option Position := match init with
      | .initList _ => none
      | _ =>
        let converted := !e.keepsValue t (e.valueType init)
        match e.nonConstant? Entities.depthLimit init with
        | some x => some (if converted then start else Expr.place start Entities.depthLimit x)
        | none =>
          if e.narrowsAddress t && (e.constantValue init).isNone &&
              e.isAddressConstant Entities.depthLimit init then some start
          else none
    if let some p := culprit then report p "initializer element is not a compile-time constant"

/-- Reports the operand type of `sizeof` or an alignment query when it is incomplete, and gives
whether it was; a function type and `void` are taken as extensions, with a warning. -/
def incompleteOperand (pos : Position) (trait : String) (t : Ty) : Read Bool := do
  let e ← entities
  if e.isFunction t then
    warn (.ext "pointer-arith") pos ("invalid application of '" ++ trait ++ "' to a function type")
  else if e.isVoid t then
    warn (.ext "pointer-arith") pos ("invalid application of '" ++ trait ++ "' to a void type")
  else if e.isIncomplete t then
    report pos ("invalid application of '" ++ trait ++ "' to an incomplete type " ++ (← quoteType t))
    return true
  return false

/-- Reports the variables whose type was never completed, at the end of the unit, each once, at
its last tentative definition, in the order they were first declared. An array of unknown size
is taken to have one element, with a warning, unless a later declaration gave its size. -/
def finishTentative : Read Unit := do
  let entries := (← get).tentative.toList
  for name in (entries.map (·.1)).eraseDups do
    let (_, pos, t) := (entries.filter (·.1 == name)).getLastD (name, default, .invalid)
    let e ← entities
    if e.bare t matches .array _ _ .incomplete _ _ then
      let now ← match ← lookupNameHere name with
        | some (.object ty _) => pure ty
        | _ => pure t
      if e.bare now matches .array _ _ .incomplete _ _ then
        warn (.on "") pos "tentative array definition assumed to have one element"
    else if e.isIncomplete t then
      report pos ("tentative definition has type " ++ (← quoteType t) ++ " that is never completed")

/-- Warns, at the end of the unit, about each `#pragma pack(push)` that no `pop` took back, the
newest first, at its `pack`. -/
def finishPacks : Read Unit := do
  for slot in (PackState.after ((← get).packs.map (·.2))).saved do
    warn (.on "pragma-pack") slot.pos "unterminated '#pragma pack (push, ...)' at end of file"

end Read

end NativeBindings.Header
