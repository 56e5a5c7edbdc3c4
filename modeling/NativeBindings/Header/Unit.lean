import NativeBindings.Header.Reader.Grammar
import NativeBindings.Header.Preprocessor

/-!
# Reading a unit

`readUnit` reads one header as the front end does: it preprocesses the file, reads the
declarations of the tokens, and puts the errors of both in the order they were found, as
`FILE:LINE:COL: message` lines. After a fatal error (an included file that is missing) no
further error is reported, nor after twenty errors.

The unit starts with the typedefs that the compiler declares itself, such as
`__builtin_va_list`; they have no place in any file.

`Frontend.clang` is the front end that reads headers so: a header whose text can be read is
loaded when the compiler arguments of the run are understood.
-/

namespace NativeBindings.Header

/-- The name and the members of the record behind `__builtin_va_list`, for the shapes that
have one: the offsets into the registers saved and the areas of the arguments. -/
def vaListRecord : VaListKind → Option (String × List (String × Ty))
  | .x86_64 =>
    some ("__va_list_tag",
      [("gp_offset", .builtin {} .unsignedInt), ("fp_offset", .builtin {} .unsignedInt),
       ("overflow_arg_area", .pointer {} (.builtin {} .void)),
       ("reg_save_area", .pointer {} (.builtin {} .void))])
  | .aarch64 =>
    some ("__va_list",
      [("__stack", .pointer {} (.builtin {} .void)), ("__gr_top", .pointer {} (.builtin {} .void)),
       ("__vr_top", .pointer {} (.builtin {} .void)), ("__gr_offs", .builtin {} .int),
       ("__vr_offs", .builtin {} .int)])
  | .aapcs => some ("__va_list", [("__ap", .pointer {} (.builtin {} .void))])
  | .systemz =>
    some ("__va_list_tag",
      [("__gpr", .builtin {} .long), ("__fpr", .builtin {} .long),
       ("__overflow_arg_area", .pointer {} (.builtin {} .void)),
       ("__reg_save_area", .pointer {} (.builtin {} .void))])
  | .powerpc =>
    some ("__va_list_tag",
      [("gpr", .builtin {} .unsignedChar), ("fpr", .builtin {} .unsignedChar),
       ("reserved", .builtin {} .unsignedShort),
       ("overflow_arg_area", .pointer {} (.builtin {} .void)),
       ("reg_save_area", .pointer {} (.builtin {} .void))])
  | _ => none

/-- The record behind `__builtin_va_list`, which is the first record of every unit; where the
target's `va_list` is a pointer it is never named. -/
def vaListTag (m : TypeModel) : TagDef :=
  let (name, members) := (vaListRecord m.vaList).getD ("__va_list_tag", [])
  { kind := .struct, name := some name, pos := ⟨"<built-in>", 0, 0, 0⟩, complete := true,
    members := members.map fun (n, t) => ⟨n, t, none, 0, false⟩ }

/-- The type of `__builtin_va_list`: a pointer, the record, or an array of one record. -/
def vaListType : VaListKind → Ty
  | .charPointer => .pointer {} (.builtin {} .char)
  | .voidPointer => .pointer {} (.builtin {} .void)
  | .aarch64 | .aapcs => .tag {} 0
  | _ => .array {} (.tag {} 0) (.constant 1) {} false

/-- The names of the types that Objective-C declares itself: the selector, object and class
types, and the class of protocols. -/
def objcBuiltinTypes : List String := ["SEL", "id", "Class", "Protocol"]

/-- The typedefs the compiler declares on a target with the model `m`: the 128-bit integers
where they exist, the Microsoft `va_list` where the target has it, `va_list`, and the types of
Objective-C when `objc` is set. -/
def builtinTypedefs (m : TypeModel) (objc : Bool) : List TypedefDef :=
  (if m.int128 then
    [{ name := "__int128_t", underlying := .builtin {} .int128, pos := none },
     { name := "__uint128_t", underlying := .builtin {} .unsignedInt128, pos := none }]
  else []) ++
  (if m.msVaList then
    [{ name := "__builtin_ms_va_list", underlying := .pointer {} (.builtin {} .char), pos := none }]
  else []) ++
  [{ name := "__builtin_va_list", pos := none, underlying := vaListType m.vaList }] ++
  if objc then objcBuiltinTypes.map fun n => { name := n, underlying := .objcObject {} n, pos := none }
  else []

/-- The state reading starts from. -/
def initialState (tokens : Array Token) (o : Options) (marks : List LineMark)
    (packs : List (Nat × PackAction)) (msStructs : List (Nat × Bool)) : State :=
  let entities : Entities :=
    { tags := #[vaListTag o.typeModel], typedefs := (builtinTypedefs o.typeModel o.objc).toArray,
      c23 := o.declarationStandard == .c23, cxx := o.language == .cxx,
      lineMarks := marks, model := o.typeModel }
  let scope : NameScope :=
    { names := ((builtinTypedefs o.typeModel o.objc).zipIdx.map fun (d, i) => (d.name, Binding.typedef i)).reverse,
      tags := match vaListRecord o.typeModel.vaList with
        | some (name, _) => [(name, 0)]
        | none => [] }
  { tokens, standard := o.declarationStandard, keywords := o.keywordSet,
    packs, msStructs,
    unsupportedConventions := o.unsupportedConventions,
    blocks := o.blocks, objc := o.objc, cxx := o.language == .cxx, msvcCompat := o.msvcCompat,
    builtins := o.builtinContext, target := o.target, packStruct := o.packStruct.getD 0,
    entities, scopes := [scope] }

namespace Read

/-- Declares a variable whose type its initializer gives: the type of the initializer's value,
with the qualifiers of the specifiers. Without an initializer there is nothing to give it. -/
def declareDeduced (ds : DeclSpec) (d : Declarator) (keyword : String) : Read Unit := do
  if !(← accept "=") then
    report d.namePos ("declaration of variable '" ++ d.name.getD "" ++ "' with deduced type '" ++
      keyword ++ "' requires an initializer")
    declareVariable ds d (.builtin ds.quals .int) false
    return
  let init ← assignment (← budget)
  if hasErrors init then
    declareVariable ds d (.builtin ds.quals .int) true
    let _ ← skipTo [","] { stopAtSemi := true, stopBeforeMatch := true }
  else declareVariable ds d (((← entities).valueType init).addQuals ds.quals) true

/-- Declares what one declarator of a top-level declaration declares, and reads its
initializer; after an initializer that cannot be read, reading goes on at the next `,` or `;`. -/
def declareTop (ds : DeclSpec) (d : Declarator) : Read Unit := do
  if let .deduced keyword := ds.special then
    if d.functionChunk?.isNone then return ← declareDeduced ds d keyword
  -- a C++ function defined as deleted or defaulted
  if (← get).cxx && d.functionChunk?.isSome && (← atPunct "=") &&
      (← keywordIn (← peekAt 1) ["delete", "default"]) then
    advance
    advance
  let initialized ← atPunct "="
  checkImplicitInt ds d
  let t ← buildType ds d
  checkArguedAttrs d.namePos (ds.argued ++ d.argued).toList t
    (ds.storage != some "typedef" && (← entities).isFunction t)
  if ds.storage == some "typedef" then declareTypedef ds d t
  else if (← entities).isFunction t then declareFunction ds d t false
  else declareVariable ds d t initialized
  if initialized then
    advance
    let start ← peek
    let first := (← get).pos
    let init ← if ← atPunct "\x7b" then initializerList (← budget) else assignment (← budget)
    let isVariable := ds.storage != some "typedef" && !(← entities).isFunction t
    if !isVariable then
      report d.namePos "illegal initializer (only variables can be initialized)"
    else if !hasErrors init && !(ds.special matches .error) then
      -- a constexpr value that a conversion changes is an error of its own
      let tokens := (← get).tokens
      let inner := if ds.constexpr then none
        else some (tokens.getD (first + (withoutParens Entities.depthLimit init).2) start).pos
      checkInitializer d t init start.pos (ds.storage == some "extern") inner
      -- a C++ variable of integer type that is constexpr, or const, with a constant value
      let e ← entities
      if (← get).cxx && (ds.constexpr || (e.bare t).isConst) &&
          (e.arithmetic? t).any Builtin.isInteger then
        if let some c := e.constantValue init then
          let c := Constant.wrap e.model c.value ((e.arithmetic? t).getD .int)
          bindName (d.name.getD "") (.constant c.value t)
    if hasErrors init then
      let _ ← skipTo [","] { stopAtSemi := true, stopBeforeMatch := true }
    else
      match t with
      | .array q el .incomplete iq st =>
        match (← entities).initializedLength el init with
        | some n =>
          if n == 0 && init matches .initList _ then
            warn (.ext "zero-length-array") start.pos "zero size arrays are an extension"
          let internal := match ← lookupNameHere (d.name.getD "") with
            | some (.object _ i) => i
            | _ => false
          bindName (d.name.getD "") (.object (.array q el (.constant n) iq st) internal)
        | none => pure ()
      | _ => pure ()

/-- Completes one declarator of a declaration: its name takes the marks of its attributes, and
the uses noted in it are reported as its marks allow. -/
def completeDeclarator (ds : DeclSpec) (d : Declarator) : Read Unit := do
  let name := d.name.getD ""
  markName name (ds.availability.merge d.availability)
  settleUses (← nameMarks name)

/-- Reads the asm label and attributes after a declarator. -/
def afterDeclarator (d : Declarator) : Read Declarator := do
  if ← keywordIn (← peek) ["asm", "__asm", "__asm__"] then
    advance
    if ← atPunct "(" then skipBracketed
  let a ← attributes (← budget) {}
  return d.withAttrs a

/-- Reads the declarators after the first one of a top-level declaration. -/
def moreDeclarators (fuel : Nat) (ds : DeclSpec) : Read Unit := do
  match fuel with
  | 0 => pure ()
  | n + 1 =>
    if ← accept "," then
      let a ← attributes (← budget) {}
      let d ← declarator (← budget) .named (ds.storage != some "typedef")
      let d ← afterDeclarator (d.withAttrs a)
      if !d.invalid then
        declareTop ds d
        completeDeclarator ds d
      moreDeclarators n ds

/-- Reads the declarators of one declaration of parameters of a definition whose parameter
list holds only identifiers; gives the declarations found for the identifiers, each declaring
one identifier of the list once. -/
def typedParams (fuel : Nat) (ds : DeclSpec) (ids : List (String × Position))
    (found : List (String × Nat)) : Read (List (String × Nat)) := do
  match fuel with
  | 0 => return found
  | n + 1 =>
    let d ← declarator (← budget) .named false
    let a ← attributes (← budget) {}
    let d := d.withAttrs a
    let mut found := found
    if !d.invalid then
      let name := d.name.getD ""
      let redefined := !name.isEmpty && (← lookupNameHere name) matches some (.object ..)
      checkImplicitInt ds d
      let t ← buildType ds d
      let p ← declareParam ds d t
      if !name.isEmpty && !redefined then
        if !ids.any (·.1 == name) then
          report d.namePos ("parameter named '" ++ name ++ "' is missing")
        else if found.any (·.1 == name) then
          report d.namePos ("redefinition of parameter '" ++ name ++ "'")
        else found := found ++ [(name, p)]
    if ← accept "," then typedParams n ds ids found else return found

/-- Reads the declarations of the parameters of a definition whose parameter list holds only
identifiers, up to its body; gives the declarations found for the identifiers. -/
def paramDeclarations (fuel : Nat) (ids : List (String × Position)) (found : List (String × Nat)) :
    Read (List (String × Nat)) := do
  match fuel with
  | 0 => return found
  | n + 1 =>
    let start ← peek
    if !(← startsSpecifiersAt 0) then return found
    let ds ← specifiers (← budget) .param { start := start.pos }
    if ← accept ";" then
      report start.pos "declaration does not declare a parameter"
      return ← paramDeclarations n ids found
    let ds ← match ds.storage, ds.storagePos with
      | some s, some p =>
        if s != "register" then do
          report p "invalid storage class specifier in function declarator"
          pure { ds with storage := none, storagePos := none }
        else pure ds
      | _, _ => pure ds
    let found ← typedParams (← budget) ds ids found
    if !(← expectSemi "expected ';' at end of declaration") then
      return ← paramDeclarations n ids found
    if ← skipTo ["\x7b"] { stopAtSemi := true, stopBeforeMatch := true } then return found
    let _ ← accept ";"
    paramDeclarations n ids found

/-- Declares the parameters of a definition whose parameter list holds only identifiers: an
identifier without a declaration is an `int`, an error from C99 on. Gives the declarator with
the parameters in the order of the list. -/
def identifierParams (d : Declarator) (ids : List (String × Position)) : Read Declarator := do
  openPrototype false
  let found ← paramDeclarations (← budget) ids []
  let mut found := found
  for (name, pos) in ids.reverse do
    if !found.any (·.1 == name) then
      if (← get).standard.atLeast99 then
        report pos ("parameter '" ++ name ++ "' was not declared, defaults to 'int'; " ++
          "ISO C99 and later do not support implicit int")
      bindName name (.object .int false)
      found := found ++ [(name, ← addDecl (.param name pos .int {}))]
  let _ ← closeScope
  let params := ids.filterMap fun (name, _) => found.lookup name
  return { d with chunks := d.chunks.map fun
    | .function _ v p pos declared ids' el => .function params v p pos declared ids' el
    | c => c }

/-- Reads a function definition after its declarator; its body is passed over. A definition
whose parameter list holds only identifiers declares them before the body. -/
def functionDefinition (ds : DeclSpec) (d : Declarator) : Read Unit := do
  checkImplicitInt ds d
  let d ← match d.functionChunk? with
    | some (.function _ _ _ _ _ ids@(_ :: _) _) => identifierParams d ids
    | _ => pure d
  if !(← atPunct "\x7b") then
    reportHere "expected function body after function declarator"
    let _ ← skipTo ["\x7b"] { stopAtSemi := true, stopBeforeMatch := true }
    if !(← atPunct "\x7b") then return
  let prior := (← get).functions.find? (·.name == d.name.getD "")
  let t ← buildType ds { d with definition := true }
  checkArguedAttrs d.namePos (ds.argued ++ d.argued).toList t true
  declareFunction ds d t true
  completeDeclarator ds d
  if ← atPunct "\x7b" then skipBracketed
  -- a definition with a parameter list of identifiers means nothing in C23
  let s ← get
  if let some (.function (_ :: _) _ false ..) := d.functionChunk? then
    if !s.cxx && s.standard != .c23 && !prior.any (·.prototyped) then
      warn (.on "deprecated-non-prototype") d.namePos ("a function definition without a prototype is deprecated in all " ++
        "versions of C and is not supported in C23")
      if let some old := prior then
        warn (.on "deprecated-non-prototype") old.pos ("a function declaration without a prototype is deprecated in all " ++
          "versions of C and is treated as a zero-parameter prototype in C23, conflicting with a " ++
          "subsequent definition")

/-- Reads the declarators of a top-level declaration and its `;`. -/
def declGroup (ds : DeclSpec) : Read Unit := do
  let d ← declarator (← budget) .named (ds.storage != some "typedef")
  if d.name.isNone then
    skipDeclaration
    return
  let d ← afterDeclarator d
  match d.functionChunk? with
  | some (.function _ _ _ _ _ ids _) =>
    let t ← peek
    let declarationAfter := t.isPunct "=" || t.isPunct "," || t.isPunct ";" ||
      (← keywordIn t ["asm", "__asm", "__asm__", "__attribute__", "__attribute"])
    if !declarationAfter then
      if t.isPunct "\x7b" || (!ids.isEmpty && (← startsSpecifiersAt 0)) then
        functionDefinition ds d
        return
      if !(← startsSpecifiersAt 0) then
        report t.pos "expected function body after function declarator"
        let _ ← skipTo [";"] {}
        return
  | _ => pure ()
  declareTop ds d
  completeDeclarator ds d
  moreDeclarators (← budget) ds
  if ← expectSemi "expected ';' after top level declarator" then
    if !(← startsSpecifiersAt 0) then skipDeclaration

/-- Declares the name of an Objective-C class, at the place `at_` of its declaration; a name
that is already a class stays as it is. -/
def declareClass (name : String) (at_ : Position) : Read Unit := do
  match ← lookupNameHere name with
  | none =>
    let id ← newTypedef { name, underlying := .objcObject {} name, pos := none }
    bindName name (.typedef id)
  | some (.typedef j) =>
    match ((← entities).typedef j).underlying with
    | .objcObject .. => pure ()
    | _ => report at_ ("redefinition of '" ++ name ++ "' as different kind of symbol")
  | some _ => report at_ ("redefinition of '" ++ name ++ "' as different kind of symbol")

/-- Reads the names of an Objective-C class declaration after the keyword, to its `;`. -/
def classNames (fuel : Nat) (at_ : Position) : Read Unit := do
  match fuel with
  | 0 => pure ()
  | n + 1 =>
    let t ← peek
    if t.kind != .identifier || (← get).keywords.contains t.text then
      report t.pos "expected identifier"
      let _ ← skipTo [";"] {}
      return
    advance
    declareClass t.text at_
    if ← atPunct "<" then
      advance
      let _ ← skipTo [">"] {}
    if ← accept "," then classNames n at_
    else
      let _ ← expectAndConsume ";" "expected ';' after @class"

/-- Passes over the body of an Objective-C container to the `@end` that closes it, which is
consumed; at the end of the unit the `@end` is missing. -/
def skipToEnd (fuel : Nat) : Read Unit := do
  match fuel with
  | 0 => pure ()
  | n + 1 =>
    let t ← peek
    if t.kind == .endOfFile then reportHere "missing '@end'"
    else if t.kind == .stray && t.text == "@" && (← peekAt 1).text == "end" then
      advance
      advance
    else
      if t.isPunct "\x7b" || t.isPunct "(" || t.isPunct "[" then skipBracketed else advance
      skipToEnd n

/-- Reads an Objective-C directive, the `@` being next: a class declaration declares its names,
an interface its class, and the bodies of interfaces, protocols and implementations are passed
over. -/
def objcDirective : Read Unit := do
  let at_ ← next
  let t ← peek
  match t.text with
  | "class" =>
    advance
    classNames (← budget) at_.pos
  | "interface" =>
    advance
    let name ← peek
    if name.kind == .identifier then
      advance
      if !(← atPunct "(") then declareClass name.text name.pos
    skipToEnd (← budget)
  | "protocol" =>
    advance
    let _ ← next
    if (← atPunct ";") || (← atPunct ",") then
      let _ ← skipTo [";"] {}
    else skipToEnd (← budget)
  | "implementation" =>
    advance
    skipToEnd (← budget)
  | "end" =>
    advance
    report at_.pos "'@end' must appear in an Objective-C context"
  | "compatibility_alias" | "synthesize" | "dynamic" =>
    let _ ← skipTo [";"] {}
  | "import" =>
    report at_.pos "use of '@import' when modules are disabled"
    let _ ← skipTo [";"] {}
  | _ =>
    report at_.pos "unexpected '@' in program"
    let _ ← skipTo [";"] {}

/-- Reads a C++ `using` declaration after its keyword: a `using namespace` directive, which
lets the scope find the names of the namespace; an alias of a type (`using U = T;`), which
names the type as a typedef does but declares nothing that is walked; or a name taken from
another scope. -/
def usingDeclaration : Read Unit := do
  if ← isKeyword (← peek) "namespace" then
    advance
    let global ← accept "::"
    let j ← pastQualifier 16 0
    let mut parts : Array String := #[]
    for i in [0:j / 2 + 1] do
      parts := parts.push (← peekAt (2 * i)).text
    let last ← peekAt j
    if !(← isPlainIdent last) then
      reportHere "expected namespace name"
      let _ ← skipTo [";"] {}
      return
    for _ in [0:j + 1] do advance
    match ← resolveQualifier parts.toList global with
    | some full => useScope full
    | none => report last.pos "expected namespace name"
    let _ ← expectSemi "expected ';' after namespace name"
    return
  let name ← peek
  if (← isPlainIdent name) && (← peekAt 1).isPunct "=" then
    advance
    advance
    let _ ← attributes (← budget) {}
    let t ← typeName (← budget)
    let id ← newTypedef { name := name.text, underlying := t, pos := some name.pos, scope := ← shownScope }
    bindName name.text (.typedef id)
    let _ ← expectSemi "expected ';' after alias declaration"
    return
  let global ← accept "::"
  let j ← pastQualifier 16 0
  let last ← peekAt j
  if j > 0 && (← isPlainIdent last) then
    let mut parts : Array String := #[]
    for i in [0:j / 2] do
      parts := parts.push (← peekAt (2 * i)).text
    for _ in [0:j + 1] do advance
    if let some full ← resolveQualifier parts.toList global then
      if let some b ← lookupNameIn full last.text then bindName last.text b
      if let some i ← lookupTagIn full last.text then bindTag last.text i
  let _ ← skipTo [";"] {}

mutual

/-- Reads one top-level declaration. -/
def externalDeclaration (fuel : Nat) : Read Unit := do
  match fuel with
  | 0 => pure ()
  | n + 1 =>
    let t ← peek
    let cxx := (← get).cxx
    if t.isPunct ";" then extraSemi none
    else if t.isPunct "\x7d" then
      report t.pos "extraneous closing brace ('\x7d')"
      advance
    else if ← isKeyword t "__extension__" then
      advance
      externalDeclaration n
    else if ← keywordIn t ["asm", "__asm", "__asm__"] then
      advance
      if ← atPunct "(" then skipBracketed
      let _ ← expectAndConsume ";" "expected ';' after top-level asm block"
    else if ← keywordIn t ["_Static_assert", "static_assert"] then
      staticAssert (← budget)
    else if (← get).objc && t.kind == .stray && t.text == "@" then
      objcDirective
    else if cxx && ((← isKeyword t "namespace") ||
        ((← isKeyword t "inline") && (← isKeyword (← peekAt 1) "namespace"))) then
      namespaceDefinition n
    else if cxx && (← isKeyword t "extern") && (← peekAt 1).kind == .string then
      linkageSpecification n
    else if cxx && (← isKeyword t "using") then
      advance
      usingDeclaration
    else if cxx && (← isKeyword t "template") then
      advance
      if ← accept "<" then skipTemplateParams (← budget) 0
      skipTemplated (← budget)
    else
      let leading ← atStandardAttributes
      let a ← if leading then standardAttributes (← budget) {} else pure {}
      if leading then
        if ← atPunct ";" then
          advance
          return
      let start ← peek
      let ds ← specifiers (← budget) .top
        { start := start.pos, overloadable := a.overloadable, availability := a.availability,
          argued := a.argued }
      if ← atPunct ";" then
        if leading then
          match ds.special, ds.tagPos with
          | .tag k _, some p =>
            let n := k.keyword.length
            report { p with column := p.column + n, offset := p.offset + n }
              "misplaced attributes; expected attributes here"
          | _, _ => report t.pos "an attribute list cannot appear here"
        match ds.defines with
        | some i =>
          modifyTag i fun x => { x with freeStanding := true }
          let td := (← entities).tag i
          if cxx && td.kind == .union && td.name.isNone && ds.storage != some "static" then
            if let some p := ds.tagPos then
              report p "anonymous unions at namespace or global scope must be declared 'static'"
        | none => pure ()
        advance
        freeStandingSpecifiers ds
      else declGroup ds

/-- Checks specifiers that stand without a declarator. A declaration must declare a declarator,
a tag or the members of an enumeration: one that declares nothing, such as `int;` or a record
of C without a name, is an extension, and so is a typedef without a name. The storage class and
the qualifiers of a declaration that only declares a tag are ignored, which is warned about;
the place of `const` stands for `volatile` too. -/
def freeStandingSpecifiers (ds : DeclSpec) : Read Unit := do
  let cxx := (← get).cxx
  let e ← entities
  let tag : Option TagDef := match ds.special with
    | .tag _ use => some (e.tag use.tag)
    | _ => none
  if tag.any (·.invalid) || ds.special matches .error then return
  let typedef := ds.storage == some "typedef"
  let mut declaresAnything := true
  if let some td := tag then
    if td.kind.isRecord && td.name.isNone && ds.defines.isSome && !typedef && !cxx then
      declaresAnything := false
  if tag.isNone || typedef then
    if typedef then warn (.extWarn "missing-declarations") ds.start "typedef requires a name"
    else declaresAnything := false
  if !declaresAnything then
    warn (.extWarn "missing-declarations") ds.start "declaration does not declare anything"
    return
  let ignored (pos : Option Position) (word : String) : Read Unit := do
    let message := if cxx then "'" ++ word ++ "' is not permitted on a declaration of a type"
      else "'" ++ word ++ "' ignored on this declaration"
    let w : Warning := if cxx then .extWarn "missing-declarations" else .on "missing-declarations"
    match pos with
    | some p => warn w p message
    | none => warnUnplaced w message
  if let some s := ds.storage then
    if s != "typedef" then ignored ds.storagePos s
  if ds.quals.const then ignored ds.constPos "const"
  if ds.quals.volatile then ignored ds.constPos "volatile"

/-- Reads the declarations of a C++ namespace or linkage block up to the `\x7d` that closes
it, which is left to read. -/
def declarationsUntilBrace (fuel : Nat) : Read Unit := do
  match fuel with
  | 0 => pure ()
  | n + 1 =>
    let t ← peek
    if t.isPunct "\x7d" || t.kind == .endOfFile then return
    let before ← index
    externalDeclaration n
    if (← index) == before && !(← atPunct ";") && !(← atPunct "\x7d") then advance
    declarationsUntilBrace n

/-- Reads the braced declarations of a namespace or linkage block from its `\x7b`, and gives
them as a declaration placed at `pos`. -/
def scopeBody (fuel : Nat) (pos : Position) : Read Unit := do
  match fuel with
  | 0 => pure ()
  | n + 1 =>
    advance
    modify fun s => { s with bodies := #[] :: s.bodies }
    declarationsUntilBrace n
    let members ← do
      let s ← get
      match s.bodies with
      | b :: rest =>
        set { s with bodies := rest }
        pure b.toList
      | [] => pure []
    closeWith "\x7d"
    place (← addDecl (.scope pos members))

/-- Reads a C++ namespace definition from its keyword (or `inline` before it). The names it
declares go into its scope, which a later definition of the namespace opens again; the names
of an inline namespace, and of one without a name, are found in the scope around it too. A
namespace alias (`namespace A = B;`) is passed over. -/
def namespaceDefinition (fuel : Nat) : Read Unit := do
  match fuel with
  | 0 => pure ()
  | n + 1 =>
    let isInline ← isKeyword (← peek) "inline"
    if isInline then advance
    let kw ← next
    let _ ← attributes n {}
    let j ← pastQualifier 16 0
    let mut names : Array Token := #[]
    if ← isPlainIdent (← peekAt j) then
      for i in [0:j / 2 + 1] do
        names := names.push (← peekAt (2 * i))
      for _ in [0:j + 1] do advance
    let _ ← attributes n {}
    if names.size == 1 && (← atPunct "=") then
      let _ ← skipTo [";"] {}
      return
    if !(← atPunct "\x7b") then
      reportHere "expected '\x7b'"
      skipDeclaration
      return
    let pos := (names.back?.map (·.pos)).getD kw.pos
    let parts := if names.isEmpty then ["(anonymous namespace)"] else names.toList.map (·.text)
    let last := parts.length - 1
    for (part, i) in parts.zipIdx do
      let qualifier := part ++ "::"
      let transparent := names.isEmpty || (isInline && i == last)
      if transparent then useScope ((← currentScopeName) ++ qualifier)
      openNamedScope qualifier (if isInline && i == last then "" else qualifier)
    scopeBody n pos
    for _ in parts do closeNamedScope

/-- Reads a C++ linkage specification from `extern`: a block of declarations in braces, or
one declaration. Its language is `"C"` or `"C++"`. -/
def linkageSpecification (fuel : Nat) : Read Unit := do
  match fuel with
  | 0 => pure ()
  | n + 1 =>
    let kw ← next
    let lit ← next
    if lit.text != "\"C\"" && lit.text != "\"C++\"" then
      report lit.pos "unknown linkage language"
    if ← atPunct "\x7b" then scopeBody n kw.pos
    else externalDeclaration n

end

/-- Reads top-level declarations to the end of the unit. -/
def unitLoop (fuel : Nat) : Read Unit := do
  match fuel with
  | 0 => pure ()
  | n + 1 =>
    if ← atEnd then return
    let before ← index
    externalDeclaration (← budget)
    settleUses {}
    if (← index) == before && (← peek).text != ";" then advance
    unitLoop n

end Read

/-- Puts the messages of preprocessing and of reading into one order: by the number of tokens
read before each, those of preprocessing first; nothing after a fatal error. -/
def mergeDiagnostics : List (Nat × Diagnostic) → List (Nat × Diagnostic) → List Diagnostic
  | [], bs => bs.map (·.2)
  | as, [] => as.map (·.2)
  | (ta, a) :: as, (tb, b) :: bs =>
    if ta ≤ tb then a :: mergeDiagnostics as ((tb, b) :: bs)
    else b :: mergeDiagnostics ((ta, a) :: as) bs

/-- The messages that get through, `n` errors having been reported: nothing follows a fatal
error, and an error beyond the limit (when it is not `0`) is replaced by a fatal one without a
place. -/
def untilFatal (limit n : Nat) : List Diagnostic → List Diagnostic
  | [] => []
  | d :: rest =>
    if d.fatal then [d]
    else if limit != 0 && n ≥ limit then [⟨none, "too many errors emitted, stopping now", true, none⟩]
    else d :: untilFatal limit (n + 1) rest

/-- A message as a line: its place, or the unit's file when it has none. A place in the text
read before the main file, which belongs to no file, is given in the unit's file too. -/
def Diagnostic.line (mainName : String) (d : Diagnostic) : String :=
  match d.pos with
  | some p =>
    (if p.file == "<built-in>" then { p with file := mainName } else p).render ++ ": " ++ d.message
  | none => mainName ++ ":0:0: " ++ d.message

/-- Reads a unit: its main file's path and text, in a setting. -/
def readUnit (st : Setting) (mainPath : Files.Path) (mainText : String) : Parsed :=
  let pp := preprocess st mainPath mainText
  let tokens := pp.tokens.toArray
  let run : Read Unit := do
    Read.unitLoop (tokens.size + 1)
    Read.finishPacks
    Read.finishTentative
  let ((), s) := run.run (initialState tokens st.options pp.marks pp.packs pp.msStructs)
  let given := st.options.argumentErrors.map fun m => (⟨none, m, false, none⟩ : Diagnostic)
  let wo := st.options.warningOptions
  let classify (l : List (Nat × Diagnostic)) : List (Nat × Diagnostic) :=
    l.filterMap fun (time, d) => (wo.classify pp.diagnosticPragmas time d).map (time, ·)
  let unknown := (unknownOptionWarnings wo.flags).map fun m =>
    (0, ({ pos := none, message := m, warning := some (.on "unknown-warning-option") } : Diagnostic))
  let diags := given ++ untilFatal st.options.errorLimit 0
    (mergeDiagnostics (classify (unknown ++ pp.diagnostics)) (classify s.diagnostics.toList))
  { entities := s.entities, decls := s.decls, top := s.top.toList, inclusions := pp.inclusions,
    errors := diags.map (Diagnostic.line st.mainName) }

/-- The front end that reads a header with `readUnit`, when its text can be read and the
compiler arguments are understood. -/
def Frontend.clang : Frontend where
  read tree args path :=
    match tree.readBytes path, Options.ofArgs args path.render with
    | .ok text, some o => some (readUnit ⟨tree, o, path.render⟩ path text)
    | _, _ => none
  mem_files h := by
    split at h
    · rename_i text o htext _
      exact Files.Tree.mem_files_of_readBytes htext
    · cases h

end NativeBindings.Header
