import NativeBindings.Header.BuiltinFunction
import NativeBindings.Header.Reader.Operation
import NativeBindings.Header.Features

/-!
# The grammar of declarations

Recursive descent over the tokens of a unit: declaration specifiers, declarators, parameter
lists, record and enum bodies, attributes, and the expressions that declarations hold. Every
function takes a budget of steps (`fuel`) that each call spends one of; reading stops when it
is spent, which the budgets given from `Header.Reader.Unit` never let happen on real input,
since every step reads a token or returns.

Recovery from errors follows the front end: a missing `;` is reported after the token
before it, a declaration that cannot be read is passed over to its `;` or `}`, and a name
that names no type is reported and read as one.
-/

namespace NativeBindings.Header

namespace Read

/-- How a declarator names what it declares. -/
inductive Naming where
  /-- A name is required, as at the top level. -/
  | named
  /-- A name is required, as for a member of a record. -/
  | member
  /-- No name may be written, as in a type name. -/
  | abstract
  /-- A name may be written or left out, as for a parameter. -/
  | either
deriving DecidableEq, Inhabited

/-- Where declaration specifiers stand. -/
inductive SpecPlace where
  | top
  | member
  | param
  | typeName
deriving DecidableEq, Inhabited

/-- The keywords that are builtin type words. -/
def typeWords : List String :=
  ["void", "char", "short", "int", "long", "float", "double", "signed", "unsigned", "_Bool",
   "bool", "_Complex", "__complex", "__complex__", "__int128", "__fp16", "_Float16", "__bf16",
   "__float128", "__ibm128", "__signed", "__signed__", "__int8", "__int16", "__int32", "__int64", "wchar_t",
   "char8_t", "char16_t", "char32_t", "_Decimal32", "_Decimal64", "_Decimal128"]

/-- The keywords of C++ that may stand in declaration specifiers besides type words. -/
def cxxSpecifierWords : List String :=
  ["class", "typename", "decltype", "virtual", "explicit", "friend", "mutable", "consteval",
   "constinit"]

/-- The storage class keywords. -/
def storageWords : List String := ["typedef", "extern", "static", "auto", "register"]

/-- The qualifier keywords. -/
def qualifierWords : List String :=
  ["const", "__const", "__const__", "volatile", "__volatile", "__volatile__", "restrict",
   "__restrict", "__restrict__"]

/-- The keywords of calling conventions and of Microsoft's pointer kinds, which stand in
declaration specifiers, after a `*` and after the `(` of a declarator; reading takes them and
keeps nothing of them. -/
def typeAttributeWords : List String :=
  callingConventions ++ ["__ptr64", "__w64", "__ptr32", "__sptr", "__uptr", "__unaligned", "_cdecl",
    "_stdcall", "_fastcall", "_thiscall", "_vectorcall"]

/-- The keywords of the nullability of a pointer, which stand in declaration specifiers and
after a `*`. -/
def nullabilityWords : List String :=
  ["_Nonnull", "_Nullable", "_Null_unspecified", "_Nullable_result"]

/-- The other keywords that may stand in declaration specifiers. -/
def otherSpecifierWords : List String :=
  nullabilityWords ++ ["struct", "union", "enum", "typeof", "__typeof", "__typeof__", "typeof_unqual", "_Atomic",
   "_Alignas", "alignas", "inline", "__inline", "__inline__", "_Noreturn", "__attribute__",
   "__attribute", "_Thread_local", "__thread", "thread_local", "_BitInt", "__auto_type",
   "constexpr", "__declspec", "__forceinline", "_inline"] ++ typeAttributeWords

/-- The name of the qualifier a keyword adds, as messages give it. -/
def qualifierName (w : String) : String :=
  if w == "const" || w == "__const" || w == "__const__" then "const"
  else if w == "volatile" || w == "__volatile" || w == "__volatile__" then "volatile"
  else "restrict"

/-- Warns about a declaration specifier written twice, at its second place: a qualifier in
C99 and later C is a warning, and other words, or a qualifier in C90 or C++, are extensions. -/
def duplicateSpecifier (severity : Severity) (pos : Position) (name : String) : Read Unit :=
  warn { severity, group := "duplicate-decl-specifier" } pos ("duplicate '" ++ name ++ "' declaration specifier")

/-- The qualifier a keyword adds. -/
def addQualifier (w : String) (q : Quals) : Quals :=
  if w == "const" || w == "__const" || w == "__const__" then { q with const := true }
  else if w == "volatile" || w == "__volatile" || w == "__volatile__" then { q with volatile := true }
  else { q with restrict := true }

/-- Whether a token is a keyword among `ws`. -/
def keywordIn (t : Token) (ws : List String) : Read Bool := do
  let s ← get
  return t.kind == .identifier && ws.contains t.text && s.keywords.contains t.text

/-- How far ahead, from `k` places on, the first token stands that is no `*`, `^` or qualifier;
at most `fuel` tokens are passed. -/
def pastPointerWords : Nat → Nat → Read Nat
  | 0, k => pure k
  | fuel + 1, k => do
    let t ← peekAt k
    if t.isPunct "*" || t.isPunct "^" || (← keywordIn t qualifierWords) then pastPointerWords fuel (k + 1)
    else pure k

/-- How far ahead the name stands after a C++ qualifier such as `A::B::` that starts `j`
places ahead; at most `fuel` scopes are passed. -/
def pastQualifier : Nat → Nat → Read Nat
  | 0, j => pure j
  | fuel + 1, j => do
    if (← isPlainIdent (← peekAt j)) && (← peekAt (j + 1)).isPunct "::" then pastQualifier fuel (j + 2)
    else pure j

/-- The type that a name written from the token `k` places ahead names in C++, qualified or
not (`N::S`, `::S`): what it names, the qualifier as written, and how many tokens it takes. -/
def typeNameAhead (k : Nat) : Read (Option (TypeRef × String × Nat)) := do
  let global := (← peekAt k).isPunct "::"
  let start := if global then k + 1 else k
  let j ← pastQualifier 16 start
  let mut parts : Array String := #[]
  for i in [0:(j - start) / 2] do
    parts := parts.push (← peekAt (start + 2 * i)).text
  let last ← peekAt j
  if !(← isPlainIdent last) then return none
  let qualifier := (if global then "::" else "") ++ String.join (parts.toList.map (· ++ "::"))
  let found ← if parts.isEmpty && !global then lookupType last.text
    else
      match ← resolveQualifier parts.toList global with
      | none => pure none
      | some full =>
        match ← lookupNameIn full last.text with
        | some (.typedef i) => pure (some (TypeRef.typedef i))
        | some _ => pure none
        | none => pure ((← lookupTagIn full last.text).map TypeRef.tag)
  return found.map fun r => (r, qualifier, j + 1 - k)

/-- Passes over the template parameters of a C++ template after its `<`, to the `>` that
closes them, nested angle brackets counted. -/
def skipTemplateParams : Nat → Nat → Read Unit
  | 0, _ => pure ()
  | fuel + 1, depth => do
    let t ← peek
    if t.kind == .endOfFile || t.isPunct ";" || t.isPunct "\x7b" then return
    if t.isPunct "(" || t.isPunct "[" then
      skipBracketed
      skipTemplateParams fuel depth
    else
      advance
      if t.isPunct "<" then skipTemplateParams fuel (depth + 1)
      else if t.isPunct ">" then
        if depth > 0 then skipTemplateParams fuel (depth - 1)
      else if t.isPunct ">>" then
        if depth > 1 then skipTemplateParams fuel (depth - 2)
      else skipTemplateParams fuel depth

/-- Passes over the declaration of a C++ template: to its `;`, or to the end of the braced
body that ends it, with a `;` after that body. -/
def skipTemplated : Nat → Read Unit
  | 0 => pure ()
  | fuel + 1 => do
    let t ← peek
    if t.kind == .endOfFile || t.isPunct "\x7d" then return
    if t.isPunct ";" then
      advance
      return
    if t.isPunct "\x7b" then
      skipBracketed
      let _ ← accept ";"
      return
    if t.isPunct "(" || t.isPunct "[" then skipBracketed else advance
    skipTemplated fuel

/-- Passes over a C++ member that declares nothing walked, such as a constructor or a friend:
to its `;`, or over its body, the initializers of a constructor before it (`: a(1), b{2}`)
included. -/
def skipMember : Nat → Read Unit
  | 0 => pure ()
  | fuel + 1 => do
    let t ← peek
    if t.kind == .endOfFile || t.isPunct "\x7d" then return
    if t.isPunct ";" then
      advance
      return
    if t.isPunct ":" then
      advance
      skipInitializers fuel
      return
    if t.isPunct "\x7b" then
      skipBracketed
      let _ ← accept ";"
      return
    if t.isPunct "(" || t.isPunct "[" then skipBracketed else advance
    skipMember fuel
where
  /-- Passes over the member initializers of a constructor and its body. -/
  skipInitializers : Nat → Read Unit
    | 0 => pure ()
    | fuel + 1 => do
      let t ← peek
      if t.kind == .endOfFile || t.isPunct "\x7d" || t.isPunct ";" then return
      if t.isPunct "(" || t.isPunct "\x7b" then
        skipBracketed
        if ← accept "," then skipInitializers fuel
        else if ← atPunct "\x7b" then skipBracketed
      else
        advance
        skipInitializers fuel

/-- Whether a C++ constructor, destructor or conversion function of the record being defined
comes next, after the keywords that may stand before it. -/
def specialMemberAhead (tagId : Nat) : Read Bool := do
  let name := ((← entities).tag tagId).name
  let mut k := 0
  for _ in [0:8] do
    if ← keywordIn (← peekAt k) ["explicit", "inline", "constexpr", "consteval", "virtual", "friend"] then
      k := k + 1
  let t ← peekAt k
  if t.isPunct "~" then return true
  if ← isKeyword t "operator" then return true
  return name.isSome && t.kind == .identifier && some t.text == name && (← peekAt (k + 1)).isPunct "("

/-- Reads a qualified name in a C++ expression, such as `E::A` or `::x`, and what it names: an
enumerator, a constant or a variable of the scope that the qualifier names. -/
def qualifiedName : Read Expr := do
  let global ← accept "::"
  let j ← pastQualifier 16 0
  let last ← peekAt j
  let mut parts : Array String := #[]
  for i in [0:j / 2] do
    parts := parts.push (← peekAt (2 * i)).text
  if !(← isPlainIdent last) then
    report last.pos "expected unqualified-id"
    return .invalid
  for _ in [0:j + 1] do advance
  let text := (if global then "::" else "") ++ String.join (parts.toList.map (· ++ "::")) ++ last.text
  let found ← match ← resolveQualifier parts.toList global with
    | some full => lookupNameIn full last.text
    | none => pure none
  match found with
  | some (.enumerator v ty) | some (.constant v ty) => return .enumerator text v ty
  | some (.object ty _) | some (.function ty ..) => return .variable text ty
  | _ =>
    report last.pos ("no member named '" ++ last.text ++ "'")
    return .invalid

/-- Reads the operator after the keyword `operator` in the name of a C++ operator function,
giving the name as the front end spells it: `operator==`, `operator()`, `operator new[]`. -/
def operatorName : Read (Option String) := do
  let t ← peek
  if ← keywordIn t ["new", "delete"] then
    advance
    if (← atPunct "[") && (← peekAt 1).isPunct "]" then
      advance
      advance
      return some ("operator " ++ t.text ++ "[]")
    return some ("operator " ++ t.text)
  if t.isPunct "(" && (← peekAt 1).isPunct ")" then
    advance
    advance
    return some "operator()"
  if t.isPunct "[" && (← peekAt 1).isPunct "]" then
    advance
    advance
    return some "operator[]"
  let notOperators := ["(", ")", "[", "]", "\x7b", "\x7d", ";", "...", "?", ":", ".", "::", "#", "##"]
  if t.kind == .punctuator && !notOperators.contains t.text then
    advance
    -- `<=` and `>` written together make the three-way comparison
    if t.text == "<=" && (← atPunct ">") then
      advance
      return some "operator<=>"
    return some ("operator" ++ t.text)
  return none

/-- Reads a name of a type that `typeNameAhead` found, into declaration specifiers: a typedef
name, or in C++ a record or enum named without its keyword. -/
def namedType (r : TypeRef × String × Nat) (ds : DeclSpec) : Read DeclSpec := do
  let (ref, qualifier, count) := r
  for _ in [0:count] do advance
  match ref with
  | .typedef i => return { ds with special := .typedefName i, qualifier, empty := false }
  | .tag i =>
    let kind := ((← entities).tag i).kind
    return { ds with special := .tag kind ⟨i, none⟩, keywordless := true, qualifier, empty := false }

/-- Whether the token `k` places ahead starts a name that names a type: a typedef name, and in
C++ a record or enum too, qualified or not. -/
def namesTypeAt (k : Nat) : Read Bool := do
  if (← get).cxx then return (← typeNameAhead k).isSome
  let t ← peekAt k
  return (← isPlainIdent t) && (← typedefNamed t.text).isSome

/-- Whether a token is a keyword that is a type specifier, so that an `auto` before it is a
storage class and not the type. -/
def knownTypeSpecifier (t : Token) : Read Bool := do
  if !(← keywordIn t typeWords) then
    keywordIn t ["struct", "union", "enum", "typeof", "__typeof", "__typeof__", "typeof_unqual",
      "__typeof_unqual", "__typeof_unqual__", "_BitInt", "_Atomic"]
  else return true

/-- Whether the token `k` places ahead starts declaration specifiers: a keyword of them, or a
name of a type. -/
def startsSpecifiersAt (k : Nat) : Read Bool := do
  let t ← peekAt k
  if ← keywordIn t (typeWords ++ storageWords ++ qualifierWords ++ otherSpecifierWords ++
      cxxSpecifierWords) then
    return true
  namesTypeAt k

/-- Whether the token `k` places ahead starts a type name. -/
def startsTypeNameAt (k : Nat) : Read Bool := do
  let t ← peekAt k
  if ← keywordIn t (typeWords ++ qualifierWords ++
      ["struct", "union", "enum", "typeof", "__typeof", "__typeof__", "typeof_unqual", "_Atomic",
       "_BitInt", "__attribute__", "__attribute", "class", "typename", "decltype"]) then
    return true
  namesTypeAt k

/-- Whether a token may follow the name in a declarator, so that a name without type before
it is taken as declared with `int`. -/
def validAfterName (t : Token) : Read Bool := do
  if t.kind == .punctuator then
    return ["[", "(", ")", ";", ",", "=", "\x7b", ":"].contains t.text
  keywordIn t ["asm", "__asm", "__asm__"]

/-- Whether a token may follow a type specifier; otherwise a `;` is missing after a record or
enum definition. -/
def validAfterTypeSpecifier (bitField : Bool) : Read Bool := do
  let t ← peek
  if t.kind == .punctuator then
    if [";", "*", ")", "(", ",", "[", "...", "\x7d"].contains t.text then return true
    if t.text == ":" then return bitField
    return false
  if t.kind == .identifier then
    if ← keywordIn t ["__attribute__", "__attribute"] then return true
    if ← keywordIn t (qualifierWords ++ ["_Atomic", "inline", "__inline", "__inline__", "static",
        "extern", "typedef", "register", "auto", "thread_local", "constexpr"]) then
      let n ← peekAt 1
      return !(← keywordIn n (typeWords ++ ["struct", "union", "enum"])) && !(← namesTypeAt 1)
    return !(← s_isKeyword t)
  return false
where
  s_isKeyword (t : Token) : Read Bool := do
    let s ← get
    return s.keywords.contains t.text

/-- The precedence of a binary operator, higher binding tighter. -/
def precedence (t : Token) : Option Nat :=
  if t.kind != .punctuator then none
  else match t.text with
    | "||" => some 1
    | "&&" => some 2
    | "|" => some 3
    | "^" => some 4
    | "&" => some 5
    | "==" | "!=" => some 6
    | "<" | ">" | "<=" | ">=" => some 7
    | "<<" | ">>" => some 8
    | "+" | "-" => some 9
    | "*" | "/" | "%" => some 10
    | _ => none

/-- The assignment operators. -/
def assignmentOps : List String := ["=", "+=", "-=", "*=", "/=", "%=", "<<=", ">>=", "&=", "^=", "|="]

/-- How a skip stops: before a `;` as well, and before the token sought instead of after it. -/
structure SkipFlags where
  stopAtSemi : Bool := false
  stopBeforeMatch : Bool := false

/-- Passes over tokens up to one of `targets`, over nested brackets whole; gives whether a
target was met. A closing bracket that closes one read before stops the skip. -/
def skipUntil (fuel : Nat) (targets : List String) (flags : SkipFlags) (first : Bool) : Read Bool := do
  match fuel with
  | 0 => return false
  | n + 1 =>
    let t ← peek
    if targets.any t.isPunct then
      if !flags.stopBeforeMatch then advance
      return true
    if t.kind == .endOfFile then return false
    let s ← get
    if t.isPunct "(" then
      advance
      let _ ← skipUntil n [")"] {} true
    else if t.isPunct "[" then
      advance
      let _ ← skipUntil n ["]"] {} true
    else if t.isPunct "\x7b" then
      advance
      let _ ← skipUntil n ["\x7d"] {} true
    else if t.isPunct "?" then
      advance
      let _ ← skipUntil n [":"] { stopAtSemi := flags.stopAtSemi } true
    else if t.isPunct ")" then
      if s.parens > 0 && !first then return false
      advance
    else if t.isPunct "]" then
      if s.brackets > 0 && !first then return false
      advance
    else if t.isPunct "\x7d" then
      if s.braces > 0 && !first then return false
      advance
    else if t.isPunct ";" && flags.stopAtSemi then return false
    else advance
    skipUntil n targets flags false

/-- Skips up to one of `targets`. -/
def skipTo (targets : List String) (flags : SkipFlags) : Read Bool := do
  skipUntil (← budget) targets flags true

/-- Passes over a declaration that cannot be read: to its `;`, before a `}`, or over a braced
group with the `;` after it. -/
def skipMalformed (fuel : Nat) : Read Unit := do
  match fuel with
  | 0 => pure ()
  | n + 1 =>
    let t ← peek
    if t.isPunct "\x7b" then
      advance
      let _ ← skipTo ["\x7d"] {}
      if (← atPunct ",") || (← atPunct "\x7b") then skipMalformed n
      else
        let _ ← accept ";"
    else if t.isPunct "[" then
      advance
      let _ ← skipTo ["]"] {}
      skipMalformed n
    else if t.isPunct "(" then
      advance
      let _ ← skipTo [")"] {}
      skipMalformed n
    else if t.isPunct "\x7d" || t.kind == .endOfFile then pure ()
    else if t.isPunct ";" then advance
    else
      advance
      skipMalformed n

/-- Skips a declaration that cannot be read. -/
def skipDeclaration : Read Unit := do skipMalformed (← budget)

/-- Passes over a C++ lambda expression from its `[`: the captures, the parameters, what
follows them, and the body. -/
def skipLambda : Read Unit := do
  skipBracketed
  if ← atPunct "<" then
    advance
    skipTemplateParams (← budget) 0
  if ← atPunct "(" then skipBracketed
  let _ ← skipTo ["\x7b"] { stopAtSemi := true, stopBeforeMatch := true }
  if ← atPunct "\x7b" then skipBracketed

/-- Reads `p`, or reports it missing: after the previous token, or at a `,` or `:` that stands
for a `;`, which is then read. Gives whether it was missing. -/
def expectAndConsume (p : String) (message : String) : Read Bool := do
  let t ← peek
  if t.isPunct p then
    advance
    return false
  if p == ";" && (t.isPunct ":" || t.isPunct ",") then
    report t.pos message
    advance
    return false
  report (← afterPrevious) message
  return true

/-- Passes over the `;` tokens that follow on the line of one just read. -/
def skipSemisOnLine : Nat → Read Unit
  | 0 => pure ()
  | n + 1 => do
    let t ← peek
    if t.isPunct ";" && !t.lineStart then
      advance
      skipSemisOnLine n

/-- Reads a `;` that declares nothing, with those after it on its line, and warns about it as an
extension: at file scope of C and of C++ before C++11, and inside a record of the kind
`inside`. -/
def extraSemi (inside : Option TagKind) : Read Unit := do
  let t ← peek
  advance
  skipSemisOnLine (← budget)
  let s ← get
  match inside, s.keywords.cxxYear with
  | some k, _ => warn (.ext "extra-semi") t.pos ("extra ';' inside a " ++ k.keyword)
  | none, none => warn (.ext "extra-semi") t.pos "extra ';' outside of a function"
  | none, some year =>
    if !cxxSince year 11 then
      warn (.ext "c++11-extra-semi") t.pos "extra ';' outside of a function is a C++11 extension"

/-- Reads the `;` that ends a declaration, or reports it missing. -/
def expectSemi (message : String) : Read Bool := do
  let t ← peek
  if (t.isPunct ")" || t.isPunct "]") && (← peekAt 1).isPunct ";" then
    report t.pos ("extraneous '" ++ t.text ++ "' before ';'")
    advance
    advance
    return false
  expectAndConsume ";" message

/-- Reads a closing bracket, or reports it missing and skips to it. -/
def closeWith (close : String) : Read Unit := do
  let t ← peek
  if t.isPunct close then
    advance
    return
  if t.isPunct ";" && (← peekAt 1).isPunct close then
    report t.pos ("unexpected ';' before '" ++ close ++ "'")
    advance
    advance
    return
  report t.pos ("expected '" ++ close ++ "'")
  if !(t.isPunct ")" || t.isPunct "]" || t.isPunct "\x7d") then
    if ← skipTo [close] { stopAtSemi := true, stopBeforeMatch := true } then
      if ← atPunct close then advance

/-- After a record or enum definition, a token that cannot follow a type specifier means a
`;` is missing; it is reported and taken as written. -/
def semicolonAfterTag (keyword : String) (bitField : Bool) : Read Unit := do
  if !(← validAfterTypeSpecifier bitField) then
    let t ← peek
    if t.isPunct ":" || t.isPunct "," then
      report t.pos ("expected ';' after " ++ keyword)
      modify fun s => { s with tokens := s.tokens.set! s.pos { t with text := ";" } }
    else
      report (← afterPrevious) ("expected ';' after " ++ keyword)
      insertSemicolon

/-- Adds a builtin type word to declaration specifiers, reporting a word that cannot go
with those before it. Sign, width and `_Complex` are kept apart from the type word: a second
type word, a second sign of the other kind, or a width that does not extend the one before is
an error, and the earlier word stays. -/
def addTypeWord (t : Token) (ds : DeclSpec) : Read DeclSpec := do
  let w := t.text
  let ds := { ds with empty := false }
  let clash (prev : String) : Read DeclSpec := do
    report t.pos ("cannot combine with previous '" ++ prev ++ "' declaration specifier")
    return ds
  let widthAt := ds.widthPos.orElse fun _ => some t.pos
  match w with
  | "signed" | "__signed" | "__signed__" =>
    if ds.sign == some true then return ← clash "unsigned"
    if ds.sign == some false then duplicateSpecifier .extWarning t.pos "signed"
    return { ds with sign := some false, signPos := ds.signPos.orElse fun _ => some t.pos }
  | "unsigned" =>
    if ds.sign == some false then return ← clash "signed"
    if ds.sign == some true then duplicateSpecifier .extWarning t.pos "unsigned"
    return { ds with sign := some true, signPos := ds.signPos.orElse fun _ => some t.pos }
  | "short" =>
    if ds.longs > 0 then return ← clash ds.widthName
    if ds.short then duplicateSpecifier .extWarning t.pos "short"
    return { ds with short := true, widthPos := widthAt }
  | "long" =>
    if ds.short || ds.longs ≥ 2 then return ← clash ds.widthName
    return { ds with longs := ds.longs + 1, widthPos := widthAt }
  | "__int64" =>
    if ds.short || ds.longs > 0 then return ← clash ds.widthName
    return { ds with longs := 2, widthPos := widthAt }
  | "__int16" =>
    if ds.longs > 0 then return ← clash ds.widthName
    return { ds with short := true, widthPos := widthAt }
  | "_Complex" | "__complex" | "__complex__" =>
    if ds.complex then duplicateSpecifier .extWarning t.pos "_Complex"
    return { ds with complex := true, complexPos := ds.complexPos.orElse fun _ => some t.pos }
  | _ =>
    let w := if w == "bool" then "_Bool" else if w == "__int8" then "char"
      else if w == "__int32" then "int" else w
    if ds.special matches .error then return ds
    match ds.typeSpecName (← c23) with
    | some prev => clash prev
    | none => return { ds with base := some w, basePos := some t.pos }

/-- Checks the words of declaration specifiers together once they end: a sign goes only with
`int`, `char`, `__int128` and `_BitInt`, `short` and `long long` only with `int`, `long` with
`int` and `double`, and `_Complex` with the floating types and, as an extension, the integer
ones. A sign that does not fit is dropped; a width that does not fit makes the type `int`;
`_Complex` that does not fit is dropped. -/
def finishSpecifiers (ds : DeclSpec) : Read DeclSpec := do
  if ds.special matches .error then return ds
  let c23 ← c23
  let mut ds := ds
  match ds.signPos, ds.typeSpecName c23 with
  | some p, some n =>
    if !(ds.base == some "int" || ds.base == some "char" || ds.base == some "__int128" ||
        ds.special matches .bitInt _) then
      report p ("'" ++ n ++ "' cannot be signed or unsigned")
      ds := { ds with sign := none, signPos := none }
  | _, _ => pure ()
  match ds.widthPos, ds.typeSpecName c23 with
  | some p, some n =>
    let fits := ds.base == some "int" || (ds.longs == 1 && ds.base == some "double")
    if !fits then
      report p ("'" ++ ds.widthName ++ " " ++ n ++ "' is invalid")
      ds := { ds with base := some "int", special := .none }
  | _, _ => pure ()
  match ds.complexPos, ds.typeSpecName c23 with
  | some p, some n =>
    let integer := ds.base == some "int" || ds.base == some "char" || ds.special matches .bitInt _
    let floating := ["float", "double", "__float128", "_Float16"].any (ds.base == some ·)
    if !integer && !floating then
      report p ("'_Complex " ++ n ++ "' is invalid")
      ds := { ds with complex := false, complexPos := none }
  | _, _ => pure ()
  return ds

/-- The marks that a `deprecated` or an `unavailable` attribute makes, with its message. -/
def marking (name message : String) : Availability :=
  if name == "unavailable" then { unavailable := some message } else { deprecated := some message }

/-- The name of an attribute without the underscores it may be written with. -/
def attributeName (s : String) : String :=
  if s.startsWith "__" && s.endsWith "__" && s.length > 4 then (s.drop 2).dropEnd 2 |>.toString else s

/-- Warns that an attribute, whose name `t` is, is not known and so is ignored. -/
def unknownAttribute (t : Token) : Read Unit :=
  warn (.on "unknown-attributes") t.pos ("unknown attribute '" ++ t.text ++ "' ignored")

/-- Warns about a calling convention written as the token `t`, a keyword or an attribute named
`name`, when the target does not support it; the function then keeps the default convention. -/
def callingConvention (t : Token) (name : String) : Read Unit := do
  if (← get).unsupportedConventions.contains name then
    warn (.on "ignored-attributes") t.pos ("'" ++ t.text ++ "' calling convention is not supported for this target")

/-- Notes a nullability keyword `t` as an extension of the language outside Objective-C. -/
def nullabilityExtension (t : Token) : Read Unit := do
  if !(← get).objc then
    warn (.ext "nullability-extension") t.pos ("type nullability specifier '" ++ t.text ++ "' is a Clang extension")

/-- Reads the adjacent string literals of a message that is not evaluated, adding their text
to `acc`; an escape that may not stand in such a string is reported, and then there is no
text. -/
def messageText (fuel : Nat) (acc : String) (valid : Bool) : Read (Option String) := do
  match fuel with
  | 0 => return if valid then some acc else none
  | n + 1 =>
    let t ← peek
    if t.kind != .string then return if valid then some acc else none
    advance
    let (_, start, body) := stringPiece t.text
    let (text, errors) := unevaluatedBody ((← get).standard == .c23) start body
    for (at_, message) in errors do report (t.byteAt at_) message
    messageText n (acc ++ String.ofList text) (valid && errors.isEmpty)

/-- Reads adjacent string literals, giving their tokens. -/
def stringTokens (fuel : Nat) (acc : List Token) : Read (List Token) := do
  match fuel with
  | 0 => return acc
  | n + 1 =>
    let t ← peek
    if t.kind != .string then return acc
    advance
    stringTokens n (acc ++ [t])

/-- Whether an identifier after `(` is followed by what reads as a declarator in
parentheses, so that the name before the `(` must be a type. -/
def parenDeclaratorAhead : Read Bool := do
  let t ← peekAt (← pastPointerWords (← budget) 2)
  return t.kind == .identifier || t.isPunct "("

/-- The parameters of a parameter list, without the single unnamed `void` that stands for no
parameter; a qualifier on that `void` is reported at the `(`. -/
def withoutVoidOnly (params : List Nat) (variadic : Bool) (lparen : Position) : Read (List Nat) := do
  match params with
  | [p] =>
    if variadic then return params
    match ← getDecl p with
    | .param "" _ pt _ =>
      let e ← entities
      if e.isVoid pt then
        if !(e.bare pt).quals.isEmpty then
          report lparen "'void' as parameter must not have type qualifiers"
        return []
      return params
    | _ => return params
  | _ => return params

/-- The number of the token at place `p` from token `from` on, if there is one. -/
def tokenAt (tokens : Array Token) (first : Nat) (p : Position) : Option Nat :=
  ((List.range (tokens.size - first)).map (· + first)).find? fun i =>
    (tokens.getD i default).pos == p

/-- The terms of a conjunction, each with the number of its first token: the operands of `&&`,
looked for through parentheses, left to right; `first` is the number of the first token of
`e`. A right operand starts just after its operator. -/
def conjunctionTerms (tokens : Array Token) : Nat → Nat → Expr → List (Expr × Nat)
  | 0, first, e => [(e, first)]
  | fuel + 1, first, e =>
    let (inner, k) := withoutParens fuel e
    match inner with
    | .binary "&&" a b p =>
      let right := ((tokenAt tokens (first + k) p).map (· + 1)).getD (first + k)
      conjunctionTerms tokens fuel (first + k) a ++ conjunctionTerms tokens fuel right b
    | _ => [(e, first)]

/-- The part of a failed condition to blame, with the number of its first token: the first
term of the conjunction, parentheses taken off, that is not an integer literal and is known
to be false; or else the whole condition without its parentheses. -/
def failedCondition (ent : Entities) (tokens : Array Token) (first : Nat) (cond : Expr) :
    Expr × Nat :=
  let blame (term : Expr × Nat) : Option (Expr × Nat) :=
    let (written, k) := withoutParens Entities.depthLimit term.1
    match written with
    | .integer .. => none
    | _ =>
      match ent.foldedValue term.1 with
      | some v => if v.truth then none else some (written, term.2 + k)
      | none => none
  match (conjunctionTerms tokens Entities.depthLimit first cond).findSome? blame with
  | some r => r
  | none =>
    let (whole, k) := withoutParens Entities.depthLimit cond
    (whole, first + k)

/-- The queries of the place they are written at, which the front end reads as keywords. -/
def sourceLocationBuiltins : List String :=
  ["__builtin_LINE", "__builtin_COLUMN", "__builtin_FILE", "__builtin_FILE_NAME",
   "__builtin_FUNCTION", "__builtin_FUNCSIG"]

/-- What a query of its place gives where the token `t` is written: the line or the column, as
an `unsigned int`, or the name of the file, the last part of that name, or the name of the
function around it, which outside a function is empty. -/
def sourceLocationValue (t : Token) : Expr :=
  if t.text == "__builtin_LINE" then .integer t.pos.line .unsignedInt ""
  else if t.text == "__builtin_COLUMN" then .integer t.pos.column .unsignedInt ""
  else
    let text := if t.text == "__builtin_FILE" then t.pos.file
      else if t.text == "__builtin_FILE_NAME" then ((t.pos.file.splitOn "/").getLast?.getD "")
      else ""
    .string .plain (text.toUTF8.toList.map (·.toNat))

/-- The headers that declare the types some functions of the library need, by the type codes of
the builtin table. -/
def requiredHeader? (signature : String) : Option String :=
  if signature.contains 'P' then some "stdio.h"
  else if signature.contains 'J' then some "setjmp.h"
  else if signature.contains 'K' then some "ucontext.h"
  else none

/-- Declares a function of the library that is used without a declaration, as the front end
does in C with a complaint at its name `t`: the function takes the type the builtin table gives
it. A function whose type needs a type of its header is not declared, with a warning. -/
def implicitLibraryFunction (t : Token) (builtin : Option BuiltinFunction) : Read (Option Ty) := do
  match builtin with
  | some b =>
    if !b.isLibrary then return none
    if let some header := requiredHeader? b.signature then
      warn (.on "builtin-requires-header") t.pos ("declaration of built-in function '" ++ t.text ++
        "' requires inclusion of the header <" ++ header ++ ">")
      return none
    let ty := b.type (← entities).model
    let shown ← quoteType ty
    if (← get).standard.atLeast99 then
      warn (.error "implicit-function-declaration") t.pos ("call to undeclared library function '" ++
        t.text ++ "' with type " ++ shown ++ "; ISO C99 and later do not support implicit function declarations")
    else
      warn (.extWarn "implicit-function-declaration") t.pos
        ("implicitly declaring library function '" ++ t.text ++ "' with type " ++ shown)
    bindUnitName t.text (.function ty false false)
    return some ty
  | none => return none

set_option maxHeartbeats 400000 in
set_option maxRecDepth 4000 in
mutual

/-- Reads declaration specifiers, adding to `ds`. -/
def specifiers (fuel : Nat) (place : SpecPlace) (ds : DeclSpec) : Read DeclSpec := do
  match fuel with
  | 0 => finishSpecifiers ds
  | n + 1 =>
    let t ← peek
    let s ← get
    if t.kind != .identifier then
      if s.cxx && t.isPunct "::" && !ds.hasType then
        if let some r ← typeNameAhead 0 then
          return ← specifiers n place (← namedType r ds)
      return ← finishSpecifiers ds
    if !s.keywords.contains t.text then
      if ds.hasType then return ← finishSpecifiers ds
      if s.cxx then
        if let some r ← typeNameAhead 0 then
          return ← specifiers n place (← namedType r ds)
      if t.text == "__declspec" then
        report t.pos ("'__declspec' attributes are not enabled; use '-fdeclspec' or " ++
          "'-fms-extensions' to enable support for __declspec attributes")
        if (← peekAt 1).isPunct "(" then
          advance
          skipBracketed
          return ← specifiers n place ds
      match ← typedefNamed t.text with
      | some i =>
        advance
        noteTypedefUse t.pos t.text i
        specifiers n place { ds with special := .typedefName i, empty := false }
      | none =>
        match ← unknownName n place ds with
        | some ds' => specifiers n place ds'
        | none => finishSpecifiers ds
    else
    let w := t.text
    let deducing := w == "__auto_type" ||
      (w == "auto" && ((s.cxx && s.keywords.cxxYear != some 98) ||
        ((← c23) && !(← knownTypeSpecifier (← peekAt 1)))))
    if deducing then
      advance
      if let some prev := ds.typeSpecName (← c23) then
        report t.pos ("cannot combine with previous '" ++ prev ++ "' declaration specifier")
        specifiers n place { ds with empty := false }
      else specifiers n place { ds with special := .deduced w, empty := false }
    else if storageWords.contains w then
      advance
      match ds.storage with
      | some prev =>
        if prev != w then
          report t.pos ("cannot combine with previous '" ++ prev ++ "' declaration specifier")
        else duplicateSpecifier .extWarning t.pos w
        specifiers n place { ds with empty := false }
      | none => specifiers n place { ds with storage := some w, storagePos := some t.pos, empty := false }
    else if ["_Thread_local", "__thread", "thread_local"].contains w then
      advance
      specifiers n place { ds with threadPos := ds.threadPos.orElse fun _ => some t.pos, empty := false }
    else if w == "_Noreturn" then
      advance
      if ds.noreturnPos.isSome then duplicateSpecifier .warning t.pos "_Noreturn"
      specifiers n place { ds with noreturnPos := ds.noreturnPos.orElse fun _ => some t.pos, empty := false }
    else if w == "constexpr" then
      advance
      specifiers n place { ds with empty := false, constexpr := true }
    else if ["virtual", "explicit", "friend", "mutable", "consteval", "constinit", "typename"].contains w then
      advance
      specifiers n place { ds with empty := false }
    else if w == "decltype" then
      let ds' ← decltypeSpecifier n ds
      specifiers n place ds'
    else if w == "__declspec" then
      advance
      if ← atPunct "(" then skipBracketed
      specifiers n place ds
    else if typeAttributeWords.contains w then
      advance
      callingConvention t (t.text.dropWhile (· == '_')).toString
      match TypeAttr.ofKeyword? w with
      | some a => specifiers n place { ds with typeAttrs := ds.typeAttrs.push ⟨a, t.pos, 0⟩ }
      | none => specifiers n place ds
    else if nullabilityWords.contains w then
      advance
      nullabilityExtension t
      let a := (TypeAttr.ofKeyword? w).getD .nonnull
      specifiers n place { ds with typeAttrs := ds.typeAttrs.push ⟨a, t.pos, 0⟩ }
    else if ["inline", "__inline", "__inline__", "__forceinline", "_inline"].contains w then
      advance
      if ds.inline then duplicateSpecifier .warning t.pos "inline"
      specifiers n place { ds with inline := true, inlinePos := ds.inlinePos.orElse fun _ => some t.pos,
                                   empty := false }
    else if qualifierWords.contains w then
      advance
      let q := addQualifier w {}
      if (q.const && ds.quals.const) || (q.volatile && ds.quals.volatile) ||
          (q.restrict && ds.quals.restrict) then
        duplicateSpecifier (if s.cxx || s.standard == .c89 then .extWarning else .warning) t.pos
          (qualifierName w)
      let restrictPos := if q.restrict then ds.restrictPos.orElse fun _ => some t.pos
        else ds.restrictPos
      let constPos := if q.const then ds.constPos.orElse fun _ => some t.pos else ds.constPos
      let volatilePos := if q.volatile then ds.volatilePos.orElse fun _ => some t.pos else ds.volatilePos
      specifiers n place { ds with quals := addQualifier w ds.quals, restrictPos, constPos, volatilePos,
                                   empty := false }
    else if w == "_Atomic" then
      if (← peekAt 1).isPunct "(" then
        advance
        advance
        let ty ← typeName n
        closeWith ")"
        specifiers n place { ds with special := .atomic ty, empty := false }
      else
        advance
        specifiers n place { ds with atomic := true, empty := false }
    else if w == "__attribute__" || w == "__attribute" then
      let a ← attributes n {}
      specifiers n place { ds with vectorSize := a.vector.orElse fun _ => ds.vectorSize,
                                   packed := ds.packed || a.packed, aligned := max ds.aligned a.aligned,
                                   overloadable := ds.overloadable || a.overloadable,
                                   typeAttrs := ds.typeAttrs ++ a.typeAttrs,
                                   availability := ds.availability.merge a.availability,
                                   modes := ds.modes ++ a.modes, argued := ds.argued ++ a.argued,
                                   empty := false }
    else if w == "__extension__" then
      advance
      specifiers n place ds
    else if w == "_Alignas" || w == "alignas" then
      advance
      if ← atPunct "(" then skipBracketed
      specifiers n place { ds with empty := false }
    else if w == "struct" || w == "union" || w == "enum" || w == "class" then
      let isC23 ← c23
      let prev := if ds.special matches .error then none else ds.typeSpecName isC23
      if let some p := prev then
        report t.pos ("cannot combine with previous '" ++ p ++ "' declaration specifier")
      advance
      let kind : TagKind := if w == "struct" then .struct else if w == "union" then .union
        else if w == "class" then .classTag else .enum
      let ds' ← tagSpecifier n place { ds with empty := false } kind t.pos
      -- a second type specifier does not replace the first
      let ds' := if prev.isSome || ds.special matches .error then
          { ds' with special := ds.special, base := ds.base } else { ds' with tagPos := some t.pos }
      specifiers n place ds'
    else if ["typeof", "__typeof", "__typeof__", "typeof_unqual"].contains w then
      let ds' ← typeofSpecifier n ds
      specifiers n place ds'
    else if w == "_BitInt" then
      advance
      if ← accept "(" then
        let e ← conditional n
        closeWith ")"
        let bits := match (← entities).constantValue e with
          | some c => c.value.toNat
          | none => 32
        specifiers n place { ds with special := .bitInt bits, empty := false }
      else specifiers n place { ds with special := .error, empty := false }
    else if typeWords.contains w then
      advance
      specifiers n place (← addTypeWord t ds)
    else finishSpecifiers ds

/-- Deals with an identifier that names no type where declaration specifiers have named no
type yet: it is the declared name of an `int` declaration (none), a tag name written without
its keyword, or an unknown type name, reported and read as one. -/
def unknownName (fuel : Nat) (place : SpecPlace) (ds : DeclSpec) : Read (Option DeclSpec) := do
  match fuel with
  | 0 => return none
  | n + 1 =>
    let t ← peek
    let nxt ← peekAt 1
    let inPrototype := ((← get).scopes.head?.map (·.prototype)).getD false
    if place != .typeName && !(← c23) && (← validAfterName nxt) then return none
    match ← lookupTag t.text with
    | some i =>
      let k := ((← entities).tag i).kind
      report t.pos ("must use '" ++ k.keyword ++ "' tag to refer to type '" ++ t.text ++ "'")
      return some (← tagSpecifier n place { ds with empty := false } k t.pos)
    | none =>
      if place != .typeName && !inPrototype then
        if nxt.isPunct "(" then
          if !(← parenDeclaratorAhead) then return none
        else if [",", "=", "\x7b", "[", ";"].any nxt.isPunct || (← keywordIn nxt ["asm", "__asm", "__asm__"]) then
          return none
      report t.pos ("unknown type name '" ++ t.text ++ "'")
      advance
      return some { ds with special := .error, empty := false }

/-- Reads a struct, union or enum specifier after its keyword. -/
def tagSpecifier (fuel : Nat) (place : SpecPlace) (ds : DeclSpec) (kind : TagKind) (kwPos : Position) :
    Read DeclSpec := do
  match fuel with
  | 0 => return ds
  | n + 1 =>
    let a ← attributes n {}
    let cxx := (← get).cxx
    -- `enum class` and `enum struct` keep their enumerators in a scope of their own
    let scopedEnum ← if cxx && kind == .enum && (← keywordIn (← peek) ["class", "struct"]) then do
        advance
        pure true
      else pure false
    let a ← if scopedEnum then attributes n a else pure a
    let t ← peek
    let idx ← index
    if kind == .enum && !(← isPlainIdent t) && !t.isPunct "\x7b" && !t.isPunct ":" then
      report t.pos "expected identifier or '\x7b'"
      let _ ← skipTo [","] { stopAtSemi := true }
      return { ds with special := .error, empty := false }
    let name ← if ← isPlainIdent t then do advance; pure (some (t.text, t.pos, idx)) else pure none
    if cxx && kind.isRecord && name.isSome && (← peek).text == "final" &&
        ((← peekAt 1).isPunct "\x7b" || (← peekAt 1).isPunct ":") then
      advance
    let mut fixedType : Option Ty := none
    if kind == .enum && (← atPunct ":") && (← startsTypeNameAt 1) then
      advance
      fixedType := some (← typeName n)
    if scopedEnum && fixedType.isNone then fixedType := some .int
    -- the base classes of a C++ record are passed over
    if cxx && kind.isRecord && (← atPunct ":") then
      let _ ← skipTo ["\x7b"] { stopAtSemi := true, stopBeforeMatch := true }
    let tok ← peek
    let writing ←
      if tok.isPunct "\x7b" then pure TagWriting.definition
      else if place != .typeName && (tok.isPunct ";" || (tok.lineStart && !(← validAfterTypeSpecifier false))) then
        if !tok.isPunct ";" then
          report (← afterPrevious) ("expected ';' after " ++ kind.keyword)
          insertSemicolon
        pure TagWriting.declaration
      else pure TagWriting.use
    if name.isNone && writing != .definition then
      report kwPos (if kind == .enum then "unnamed enumeration must be a definition"
        else "declaration of anonymous " ++ kind.keyword ++ " must be a definition")
      let _ ← skipTo [","] { stopAtSemi := true, stopBeforeMatch := true }
      return { ds with special := .error }
    let (tagId, declId) ← actOnTag kind kwPos name (if fixedType.isSome && writing == .use then .declaration else writing)
    modifyTag tagId fun x => { x with packed := x.packed || a.packed, aligned := max x.aligned a.aligned,
                                      msStruct := x.msStruct || a.msStruct }
    if writing == .use then
      if let some (text, pos, _) := name then noteUse pos text (← tagMarks tagId)
    else markTag tagId a.availability
    match fixedType with
    | some ft =>
      modifyTag tagId fun x => { x with fixed := true, enumType := some ft, complete := true,
                                        isScoped := scopedEnum }
    | none => pure ()
    let use : TagUse := ⟨tagId, name.map (·.2.2)⟩
    let ds := { ds with special := .tag kind use, empty := false }
    if writing != .definition then return ds
    let st ← get
    let limit := PackState.limitAt st.packs (st.pos - st.inserted)
    let msStruct := ((st.msStructs.filter (·.1 ≤ st.pos - st.inserted)).getLast?.map (·.2)).getD false
    modifyTag tagId fun x => { x with maxFieldAlign := if limit == 0 then st.packStruct else limit,
                                      msStruct := x.msStruct || msStruct }
    let di := declId.getD 0
    let scopeName := (name.map (·.1 ++ "::")).getD ""
    if kind == .enum then
      advance
      if ← atPunct "\x7d" then
        if !cxx then reportHere "use of empty enum"
      if scopedEnum then openNamedScope scopeName scopeName
      let marks ← tagMarks tagId
      modify fun s => { s with markedContexts := marks :: s.markedContexts }
      let values ← enumBody n none []
      modify fun s => { s with markedContexts := s.markedContexts.drop 1 }
      if scopedEnum then closeNamedScope
      closeWith "\x7d"
      let a2 ← attributes n {}
      markTag tagId a2.availability
      if let some (enumName, _, _) := name then
        let named := values.map fun (v, _) => (v, enumName, tagId)
        modify fun s => { s with enumeratorTags := named ++ s.enumeratorTags }
      let packed := a.packed || a2.packed
      if fixedType.isNone then
        let model := (← entities).model
        let best := enumTypeFor model (values.map (·.2.1)) (packed || model.shortEnums)
        modifyTag tagId fun x => { x with enumType := some (.builtin {} best), packed }
        for (name, v, _) in values do
          let (v, t) := finalEnumerator (← entities).model best v
          bindName name (.enumerator v (.builtin {} t))
      -- in C++ the enumerators of any enum can be named through it, as `E::A`
      if cxx && !scopedEnum && !scopeName.isEmpty then
        let found ← values.filterMapM fun (n, _, _) => do
          return (← lookupNameHere n).map (n, ·)
        storeScope ((← currentScopeName) ++ scopeName) found
      completeTag tagId di []
    else
      if cxx && !scopeName.isEmpty then openNamedScope scopeName scopeName
      recordBody n tagId di kwPos
      if cxx && !scopeName.isEmpty then closeNamedScope
    if place != .typeName then
      semicolonAfterTag kind.keyword (place == .member)
    return { ds with defines := some tagId }

/-- Reads the body of a record from its `{`, declaring its members; `kwPos` is the place of its
keyword. A record of C without members, or whose only members are unnamed bit-fields, is a GNU
extension. -/
def recordBody (fuel : Nat) (tagId : Nat) (declId : Nat) (kwPos : Position) : Read Unit := do
  match fuel with
  | 0 => pure ()
  | n + 1 =>
    advance
    let marks ← tagMarks tagId
    modify fun s => { s with bodies := #[] :: s.bodies, markedContexts := marks :: s.markedContexts }
    memberLoop n tagId
    modify fun s => { s with markedContexts := s.markedContexts.drop 1 }
    closeWith "\x7d"
    let a ← attributes n {}
    modifyTag tagId fun x => { x with msStruct := x.msStruct || a.msStruct }
    markTag tagId a.availability
    modifyTag tagId fun x => { x with packed := x.packed || a.packed, aligned := max x.aligned a.aligned }
    let members ← do
      let s ← get
      match s.bodies with
      | b :: rest =>
        set { s with bodies := rest }
        pure b.toList
      | [] => pure []
    let mut fields : Array Nat := #[]
    for i in members do
      if (← getDecl i) matches .field .. then fields := fields.push i
    finishMembers tagId fields.toList
    let td := (← entities).tag tagId
    if !(← get).cxx then
      if td.members.isEmpty then
        warn (.ext "gnu-empty-struct") kwPos ("empty " ++ td.kind.keyword ++ " is a GNU extension")
      else if td.members.all fun m => m.name.isEmpty && m.bits.isSome then
        warn (.ext "gnu-empty-struct") kwPos (td.kind.keyword ++ " without named members is a GNU extension")
    completeTag tagId declId members

/-- Reads the member declarations of a record up to its `}`. -/
def memberLoop (fuel : Nat) (tagId : Nat) : Read Unit := do
  match fuel with
  | 0 => pure ()
  | n + 1 =>
    let t ← peek
    if t.isPunct "\x7d" || t.kind == .endOfFile then return
    if t.isPunct ";" then
      extraSemi (some ((← entities).tag tagId).kind)
      memberLoop n tagId
    else if ← keywordIn t ["_Static_assert", "static_assert"] then
      staticAssert n
      memberLoop n tagId
    else if (← get).cxx && (← keywordIn t ["public", "private", "protected"]) &&
        (← peekAt 1).isPunct ":" then
      advance
      advance
      memberLoop n tagId
    else
      let before ← index
      let ended ← memberDeclaration n tagId
      if ended then memberLoop n tagId
      else if ← accept ";" then memberLoop n tagId
      else if ← atPunct "\x7d" then
        -- C lets the last member go without its semicolon, as an extension
        let p ← afterPrevious
        if (← get).cxx then report p "expected ';' at end of declaration list"
        else warn (.extWarn "") p "expected ';' at end of declaration list"
      else
        let _ ← expectAndConsume ";" "expected ';' at end of declaration list"
        let _ ← skipTo ["\x7d"] { stopAtSemi := true, stopBeforeMatch := true }
        let _ ← accept ";"
        if (← index) == before then advance
        memberLoop n tagId

/-- Reads one member declaration: specifiers, then declarators or nothing. Gives whether the
declaration read its own end, as a C++ member function with a body does, so that no `;` is
to follow. In C++ a member may also be a member function, a constructor or destructor, a
typedef, a static member, an alias or a template, none of which is a field. -/
def memberDeclaration (fuel : Nat) (tagId : Nat) : Read Bool := do
  match fuel with
  | 0 => return false
  | n + 1 =>
    let t ← peek
    let cxx := (← get).cxx
    if ← isKeyword t "__extension__" then
      advance
      memberDeclaration n tagId
    else if cxx && (← keywordIn t ["template", "friend"]) then
      advance
      if t.text == "template" then
        if ← accept "<" then skipTemplateParams n 0
      skipMember n
      return true
    else if cxx && (← isKeyword t "using") then
      let name ← peekAt 1
      if (← isPlainIdent name) && (← peekAt 2).isPunct "=" then
        advance
        advance
        advance
        let ty ← typeName n
        let id ← newTypedef { name := name.text, underlying := ty, pos := some name.pos,
                              scope := ← shownScope }
        bindName name.text (.typedef id)
        return false
      let _ ← skipTo [";"] { stopBeforeMatch := true }
      return false
    else if cxx && (← specialMemberAhead tagId) then
      skipMember n
      return true
    else
      let ds ← specifiers n .member { start := t.pos }
      let mut ds := ds
      if ds.empty then
        reportHere "type name requires a specifier or qualifier"
        ds := { ds with special := .error }
      if !cxx then ds ← onlyTypeSpecifiers ds
      if ← atPunct ";" then
        match ds.defines with
        | some i =>
          let e ← entities
          let td := e.tag i
          if td.name.isNone && td.kind != .enum then
            modifyTag i fun x => { x with anonymousMember := true }
            modifyTag tagId fun x => { x with members := x.members ++ [{ name := "", type := ds.type }] }
        | none => pure ()
        return false
      else memberDeclarators n tagId ds true

/-- Reads the declarators of a member declaration. -/
def memberDeclarators (fuel : Nat) (tagId : Nat) (ds : DeclSpec) (first : Bool) : Read Bool := do
  match fuel with
  | 0 => return false
  | n + 1 =>
    let pre ← if first then pure ({} : Attrs) else attributes n {}
    let d ← if ← atPunct ":" then do
        pure ({ namePos := (← peek).pos, nameToken := ← index } : Declarator)
      else declarator n .member false
    let mut width : Option (Expr × Position) := none
    if ← accept ":" then
      let start ← peek
      let e ← conditional n
      if hasErrors e then
        let _ ← skipTo [";"] { stopBeforeMatch := true }
      else width := some (e, start.pos)
    let a ← attributes n pre
    let d := d.withAttrs a
    checkImplicitInt ds d
    let t ← buildType ds d
    let cxx := (← get).cxx
    if cxx && ds.storage != some "typedef" && (← entities).isFunction t then
      -- a member function: what follows its declarator, and its body, are passed over
      if ← skipFunctionRest n then return true
    else if cxx && ds.storage == some "typedef" then declareTypedef ds d t
    else if cxx && ds.storage == some "static" then
      -- a static data member belongs to the record's scope and is no field
      let value ← if ← accept "=" then memberInitializer n else pure none
      declareStaticMember ds d t value
    else
      declareField tagId ds d t width (max ds.aligned d.aligned) (ds.packed || d.packed)
      if cxx && ((← atPunct "=") || (← atPunct "\x7b")) then
        let _ ← accept "="
        let _ ← memberInitializer n
    settleUses (ds.availability.merge d.availability)
    if ← accept "," then memberDeclarators n tagId ds false else return false

/-- Reads the initializer of a C++ member, braced or not, giving its value when it is an
integer constant. -/
def memberInitializer (fuel : Nat) : Read (Option Constant) := do
  match fuel with
  | 0 => return none
  | n + 1 =>
    let e ← if ← atPunct "\x7b" then initializerList n else assignment n
    if hasErrors e then
      let _ ← skipTo [",", ";"] { stopAtSemi := true, stopBeforeMatch := true }
      return none
    return (← entities).constantValue e

/-- Passes over what follows the declarator of a C++ member function: `override` and `final`,
a pure or defaulted or deleted definition (`= 0`, `= default`, `= delete`), and a body with the
initializers of a constructor before it. Gives whether a body was read, after which no `;`
follows. -/
def skipFunctionRest (fuel : Nat) : Read Bool := do
  match fuel with
  | 0 => return false
  | n + 1 =>
    let t ← peek
    if t.kind == .identifier && (t.text == "override" || t.text == "final") then
      advance
      skipFunctionRest n
    else if t.isPunct "=" then
      advance
      advance
      skipFunctionRest n
    else if t.isPunct "\x7b" || t.isPunct ":" || (← isKeyword t "try") then
      skipMember n
      return true
    else return false

/-- Reads the enumerators of an enum body, giving their names, values and types; `prev` is the
value and type of the enumerator before. -/
def enumBody (fuel : Nat) (prev : Option (Int × Builtin)) (values : List (String × Int × Builtin)) :
    Read (List (String × Int × Builtin)) := do
  match fuel with
  | 0 => return values
  | n + 1 =>
    let t ← peek
    if t.isPunct "\x7d" then return values
    if !(← isPlainIdent t) then
      report t.pos "expected identifier"
      if ← skipTo [",", "\x7d"] { stopBeforeMatch := true } then
        if ← accept "," then return ← enumBody n prev values
      return values
    advance
    let a ← attributes n {}
    let mut value := nextEnumerator (← entities).model prev
    let hasValue ← accept "="
    if hasValue then
      let start ← peek
      let e ← conditional n
      if hasErrors e then
        let _ ← skipTo [",", "\x7d"] { stopBeforeMatch := true }
      else
        let ent ← entities
        let ty := ent.exprType e
        if !(ent.arithmetic? ty).any Builtin.isInteger then
          report start.pos ("integer constant expression must have integer type, not " ++ (← quoteType ty))
        else
          match ← checkedConstant e with
          | some c => value := writtenEnumerator ent.model c
          | none => report (← notConstantPlace e start.pos) "expression is not an integer constant expression"
    let cxx := (← get).cxx
    let model := (← entities).model
    if hasValue then
      if !cxx && !Constant.fits model value.1 .int then
        warn (.ext "") t.pos ("ISO C restricts enumerator values to range of 'int' (" ++
          toString value.1 ++ " is too " ++ (if value.1 < 0 then "small" else "large") ++ ")")
    else
      match prev with
      | some (v, b) =>
        if !Constant.fits model (v + 1) b then
          match widerInteger model b with
          | some _ => if !cxx then warn (.on "") t.pos "overflow in enumeration value"
          | none =>
            warn (.extWarn "enum-too-large") t.pos ("incremented enumerator value " ++ toString (v + 1) ++
              " is not representable in the largest integer type")
      | none => pure ()
    declareEnumerator t.text t.pos value.1 value.2
    markName t.text a.availability
    let values := values ++ [(t.text, value)]
    let nxt ← peek
    if ← isPlainIdent nxt then
      report (← afterPrevious) "missing ',' between enumerators"
      return ← enumBody n (some value) values
    if nxt.isPunct "\x7d" then return values
    if ← accept "," then return ← enumBody n (some value) values
    if hasValue then report nxt.pos "expected '\x7d' or ','"
    else report nxt.pos "expected '= constant-expression' or end of enumerator definition"
    if ← skipTo [",", "\x7d"] { stopBeforeMatch := true } then
      if ← accept "," then return ← enumBody n (some value) values
      return values
    return values

/-- Reads a `decltype` specifier: the type of a parenthesized expression, or a type deduced
from an initializer for `decltype(auto)`. -/
def decltypeSpecifier (fuel : Nat) (ds : DeclSpec) : Read DeclSpec := do
  match fuel with
  | 0 => return ds
  | n + 1 =>
    let kw ← next
    if !(← accept "(") then
      reportHere ("expected '(' after '" ++ kw.text ++ "'")
      return { ds with special := .error, empty := false }
    if (← isKeyword (← peek) "auto") && (← peekAt 1).isPunct ")" then
      advance
      advance
      return { ds with special := .deduced "decltype(auto)", empty := false }
    let e ← expression n
    closeWith ")"
    if broken e then return { ds with special := .error, empty := false }
    let ent ← entities
    return { ds with special := .decltype (ent.exprText e) (ent.exprType e), empty := false }

/-- Reads a `typeof` specifier: of a type, or of a parenthesized expression. -/
def typeofSpecifier (fuel : Nat) (ds : DeclSpec) : Read DeclSpec := do
  match fuel with
  | 0 => return ds
  | n + 1 =>
    let kw ← next
    let unqualified := kw.text == "typeof_unqual"
    if !(← atPunct "(") then
      reportHere ("expected '(' after '" ++ kw.text ++ "'")
      return { ds with special := .error, empty := false }
    if ← startsTypeNameAt 1 then
      advance
      let t ← typeName n
      closeWith ")"
      return { ds with special := .typeofType t unqualified, empty := false }
    let e ← primary n
    if broken e then return { ds with special := .error, empty := false }
    let ent ← entities
    return { ds with special := .typeofExpr (ent.exprText e) (ent.exprType e) unqualified, empty := false }

/-- The alignment that an `aligned` attribute or an alignment specifier asks for, checked: a
constant power of two of at most 2^32 bytes. The value is read without sign in the width of its
type, so that a negative one is too no power of two. An error is reported at the attribute's
name otherwise. -/
def alignmentValue (pos : Position) (attr : String) (e : Expr) : Read (Option Nat) := do
  let model := (← entities).model
  match (← entities).constantValue e with
  | none =>
    report pos ("'" ++ attr ++ "' attribute requires integer constant")
    return none
  | some c =>
    if c.value > 4294967296 then
      report pos "requested alignment must be 4294967296 bytes or smaller"
      return none
    let v := if c.value < 0 then (c.value + Int.pow 2 (c.type.bitsIn model)).toNat
      else c.value.toNat
    if v == 0 || v &&& (v - 1) != 0 then
      report pos "requested alignment is not a power of 2"
      return none
    return some v

/-- Whether the current token starts a `[[...]]` attribute list. -/
def atStandardAttributes : Read Bool := do
  return (← atPunct "[") && (← peekAt 1).isPunct "["

/-- Reads `[[...]]` attribute lists, if the current token starts one; before C23 they are an
extension of C. The attributes of the `gnu` scope are those of `__attribute__`; the others
change nothing here. -/
def standardAttributes (fuel : Nat) (a : Attrs) : Read Attrs := do
  match fuel with
  | 0 => return a
  | n + 1 =>
    if !(← atStandardAttributes) then return a
    let s ← get
    if !s.cxx && s.standard != .c23 then
      warn (.ext "c23-extensions") (← peek).pos "[[]] attributes are a C23 extension"
    advance
    advance
    let a ← standardAttributeList n a
    closeWith "]"
    closeWith "]"
    standardAttributes n a

/-- Reads the attributes of one `[[...]]` list: names, scoped with `::` or not, each with its
arguments. -/
def standardAttributeList (fuel : Nat) (a : Attrs) : Read Attrs := do
  match fuel with
  | 0 => return a
  | n + 1 =>
    let t ← peek
    if t.isPunct "," then
      advance
      return ← standardAttributeList n a
    if t.kind != .identifier then return a
    advance
    let mut hasScope := false
    if ← atPunct "::" then
      advance
      hasScope := true
    else if (← atPunct ":") && (← peekAt 1).isPunct ":" then
      advance
      advance
      hasScope := true
    if hasScope then
      let m ← peek
      if m.kind != .identifier then
        reportHere "expected identifier"
        return a
      advance
      if attributeName t.text == "gnu" || attributeName t.text == "clang" then
        if !parsedAttribute (← get).target (attributeName m.text) then unknownAttribute m
        let a ← attributeItem n m a
        return ← standardAttributeList n a
      unknownAttribute m
    else
      if !(← get).cxx && !(standardCAttributes.map (·.1)).contains (attributeName t.text) then
        unknownAttribute t
      if attributeName t.text == "deprecated" || attributeName t.text == "nodiscard" then
        let a ← attributeItem n t a
        return ← standardAttributeList n a
    if ← atPunct "(" then skipBracketed
    standardAttributeList n a

/-- Reads attribute lists, `__attribute__((...))` or `[[...]]`, if the current token starts
one. -/
def attributes (fuel : Nat) (a : Attrs) : Read Attrs := do
  match fuel with
  | 0 => return a
  | n + 1 =>
    let t ← peek
    if ← atStandardAttributes then
      let a ← standardAttributes n a
      return ← attributes n a
    if !(← keywordIn t ["__attribute__", "__attribute"]) then return a
    advance
    if !(← accept "(") then
      reportHere ("expected '(' after 'attribute'")
      return a
    if !(← accept "(") then
      reportHere ("expected '(' after '('")
      return a
    let a ← attributeList n a
    closeWith ")"
    closeWith ")"
    attributes n a

/-- Reads the attributes of one attribute list. -/
def attributeList (fuel : Nat) (a : Attrs) : Read Attrs := do
  match fuel with
  | 0 => return a
  | n + 1 =>
    let t ← peek
    if t.isPunct "," then
      advance
      return ← attributeList n a
    if t.kind != .identifier then return a
    advance
    if !parsedAttribute (← get).target (attributeName t.text) then unknownAttribute t
    let a ← attributeItem n t a
    attributeList n a

/-- Reads the arguments of one attribute whose name `t` has been read, and takes in what it
says: the size of a vector, `packed`, or an alignment. -/
def attributeItem (fuel : Nat) (t : Token) (a : Attrs) : Read Attrs := do
  match fuel with
  | 0 => return a
  | n + 1 =>
    let name := attributeName t.text
    let mut a := a
    let hasArguments ← atPunct "("
    if let some arity := attributeArity? name then
      let count ← if hasArguments then argumentCount else pure 0
      if let some message := arity.complaint? t.text count then
        -- the arguments are read first, and the count is checked when they read
        if hasArguments then
          advance
          let first ← peek
          if (name == "mode" || name == "format") && first.kind == .identifier &&
              ((← peekAt 1).isPunct "," || (← peekAt 1).isPunct ")") then
            advance
            let _ ← accept ","
          let read ← if ← atPunct ")" then do advance; pure true
            else pure (← attributeArguments n []).isSome
          if read then report t.pos message
        else report t.pos message
        return a
    let places := stringArgumentPlaces name
    if hasArguments && !places.isEmpty then
      -- the arguments that must be strings are read once to check them, and read again below
      let saved ← get
      advance
      match ← attributeExpressions n [] with
      | none => return a
      | some args =>
        let numbered := args.zip (List.range args.length)
        match numbered.find? (fun ((x, _), i) => places.contains i && (plainStringText? x).isNone) with
        | some ((_, place), _) =>
          report place ("'" ++ t.text ++ "' attribute requires a string")
          return a
        | none =>
          if name == "visibility" then
            if let some (x, place) := args.head? then
              let v := (plainStringText? x).getD ""
              if !visibilityNames.contains v then
                warn (.on "ignored-attributes") place
                  ("'" ++ t.text ++ "' attribute argument not supported: " ++ v)
                return a
          set saved
    if hasArguments then
      if name == "vector_size" || name == "ext_vector_type" then
        advance
        let e ← conditional n
        closeWith ")"
        let size := ((← entities).constantValue e).map (·.value.toNat)
        a := { a with vector := some ⟨size, t.pos, name == "ext_vector_type"⟩ }
      else if name == "aligned" then
        advance
        let e ← conditional n
        closeWith ")"
        if !hasErrors e then
          match ← alignmentValue t.pos "aligned" e with
          | some v => a := { a with aligned := max a.aligned v }
          | none => pure ()
      else if name == "address_space" then
        advance
        let e ← conditional n
        closeWith ")"
        if !hasErrors e then
          match (← entities).constantValue e with
          | none => report t.pos "'address_space' attribute requires an integer constant"
          | some c =>
            if c.value < 0 then report t.pos "address space is negative"
            else if c.value > 8388586 then
              report t.pos "address space is larger than the maximum supported (8388586)"
            else a := { a with typeAttrs := a.typeAttrs.push ⟨.addressSpace, t.pos, c.value.toNat⟩ }
      else if ["nonnull", "format", "cleanup", "alloc_size"].contains name then
        advance
        let first ← peek
        let ident ← if name == "format" && first.kind == .identifier &&
            ((← peekAt 1).isPunct "," || (← peekAt 1).isPunct ")") then do
            advance
            pure (some first.text)
          else pure none
        let args ← if ident.isSome && (← atPunct ")") then do advance; pure (some [])
          else if ident.isSome then do advance; attributeArguments n []
          else if ← atPunct ")" then do advance; pure (some [])
          else attributeArguments n []
        if let some read := args then
          let argued : AttrArguments :=
            { name, pos := t.pos, ident, values := read.map (·.1), places := read.map (·.2) }
          a := { a with argued := a.argued.push argued }
      else if name == "mode" then
        advance
        let m ← peek
        if m.kind == .identifier && (← peekAt 1).isPunct ")" then
          advance
          a := { a with modes := a.modes.push (t.pos, m.text) }
          closeWith ")"
        else
          report t.pos (if m.isPunct ")" then "'mode' attribute takes one argument"
            else "'mode' attribute requires an identifier")
          let _ ← skipTo [")"] { stopAtSemi := true }
      else if (name == "deprecated" || name == "unavailable") && (← peekAt 1).kind == .string then
        advance
        let m ← messageText n "" true
        if ← accept "," then
          let _ ← messageText n "" true
        closeWith ")"
        a := { a with availability := a.availability.merge (marking name (m.getD "")) }
      else skipBracketed
    callingConvention t name
    if !hasArguments && name == "nonnull" then
      a := { a with argued := a.argued.push { name, pos := t.pos } }
    if ["malloc", "warn_unused_result", "nodiscard"].contains name then
      a := { a with argued := a.argued.push { name, pos := t.pos, written := t.text } }
    if !hasArguments && (name == "deprecated" || name == "unavailable") then
      a := { a with availability := a.availability.merge (marking name "") }
    if name == "packed" then a := { a with packed := true }
    if name == "ms_struct" then a := { a with msStruct := true }
    if name == "overloadable" then a := { a with overloadable := true }
    if name == "aligned" && !hasArguments then a := { a with aligned := max a.aligned 16 }
    return a

/-- Reads the arguments of an attribute, expressions separated by commas, and its `)`: each
expression with the place where it starts; none when one does not read. -/
def attributeExpressions (fuel : Nat) (acc : List (Expr × Position)) :
    Read (Option (List (Expr × Position))) := do
  match fuel with
  | 0 => return some acc
  | n + 1 =>
    let start := (← peek).pos
    let e ← assignment n
    if hasErrors e then
      let _ ← skipTo [")"] { stopAtSemi := true }
      return none
    let acc := acc ++ [(e, start)]
    if ← accept "," then attributeExpressions n acc
    else
      closeWith ")"
      return some acc

/-- Reads the arguments of an attribute, expressions separated by commas, and its `)`: the value
of each that is an integer constant, with the place where it starts; none when one does not
read. -/
def attributeArguments (fuel : Nat) (acc : List (Option Int × Position)) :
    Read (Option (List (Option Int × Position))) := do
  match fuel with
  | 0 => return some acc
  | n + 1 =>
    let start := (← peek).pos
    let e ← assignment n
    if hasErrors e then
      let _ ← skipTo [")"] { stopAtSemi := true }
      return none
    let acc := acc ++ [(((← entities).constantValue e).map (·.value), start)]
    if ← accept "," then attributeArguments n acc
    else
      closeWith ")"
      return some acc

/-- Reads a declarator: pointers, then a direct declarator. -/
def declarator (fuel : Nat) (naming : Naming) (fnContext : Bool) : Read Declarator := do
  match fuel with
  | 0 => return { namePos := (← peek).pos, nameToken := ← index, invalid := true }
  | n + 1 =>
    if ← atPunct "*" then
      advance
      let (q, attrs) ← pointerQuals n {} #[]
      let d ← declarator n naming fnContext
      return { d with chunks := d.chunks ++ [.pointer q attrs.toList] }
    if ← atPunct "^" then
      let caret ← next
      let (q, _) ← pointerQuals n {} #[]
      let d ← declarator n naming fnContext
      return { d with chunks := d.chunks ++ [.blockPointer q caret.pos] }
    if (← get).cxx && ((← atPunct "&") || (← atPunct "&&")) then
      let amp ← next
      let _ ← attributes n {}
      let d ← declarator n naming fnContext
      return { d with chunks := d.chunks ++ [.reference (amp.text == "&&") amp.pos] }
    directDeclarator n naming fnContext

/-- Passes over the keywords of calling conventions and pointer kinds. -/
def skipTypeAttributes (fuel : Nat) : Read Unit := do
  match fuel with
  | 0 => pure ()
  | n + 1 =>
    let t ← peek
    if ← keywordIn t typeAttributeWords then
      advance
      callingConvention t (t.text.dropWhile (· == '_')).toString
      skipTypeAttributes n

/-- Reads the qualifiers and attributes after a `*`: the qualifiers, and the type attributes in
the order written. -/
def pointerQuals (fuel : Nat) (q : Quals) (attrs : Array WrittenAttr) :
    Read (Quals × Array WrittenAttr) := do
  match fuel with
  | 0 => return (q, attrs)
  | n + 1 =>
    let t ← peek
    if ← keywordIn t qualifierWords then
      advance
      pointerQuals n (addQualifier t.text q) attrs
    else if ← keywordIn t nullabilityWords then
      advance
      nullabilityExtension t
      pointerQuals n q (attrs.push ⟨(TypeAttr.ofKeyword? t.text).getD .nonnull, t.pos, 0⟩)
    else if ← keywordIn t ("_Atomic" :: typeAttributeWords) then
      advance
      callingConvention t (t.text.dropWhile (· == '_')).toString
      match TypeAttr.ofKeyword? t.text with
      | some a => pointerQuals n q (attrs.push ⟨a, t.pos, 0⟩)
      | none => pointerQuals n q attrs
    else if ← keywordIn t ["__attribute__", "__attribute"] then
      let a ← attributes n {}
      pointerQuals n q (attrs ++ a.typeAttrs)
    else return (q, attrs)

/-- Reads a direct declarator: the name, or a parenthesized declarator, or nothing, and then
the suffixes. -/
def directDeclarator (fuel : Nat) (naming : Naming) (fnContext : Bool) : Read Declarator := do
  match fuel with
  | 0 => return { namePos := (← peek).pos, nameToken := ← index, invalid := true }
  | n + 1 =>
    let t ← peek
    let idx ← index
    if (← get).cxx && naming != .abstract then
      -- a qualified name, the name of an operator function, or a destructor
      let j ← pastQualifier 16 0
      let first ← peekAt j
      if j > 0 && (← isPlainIdent first) then
        for _ in [0:j] do advance
        let i ← index
        advance
        return ← suffixes n fnContext { name := some first.text, namePos := first.pos, nameToken := i }
      if ← isKeyword first "operator" then
        for _ in [0:j] do advance
        let i ← index
        advance
        if let some name ← operatorName then
          return ← suffixes n fnContext { name := some name, namePos := first.pos, nameToken := i }
        reportHere "expected a type"
        return { namePos := first.pos, nameToken := i, invalid := true }
      if first.isPunct "~" && (← isPlainIdent (← peekAt (j + 1))) then
        for _ in [0:j + 1] do advance
        let i ← index
        let nm ← next
        return ← suffixes n fnContext { name := some ("~" ++ nm.text), namePos := first.pos, nameToken := i }
    if (← isPlainIdent t) && naming != .abstract then
      advance
      return ← suffixes n fnContext { name := some t.text, namePos := t.pos, nameToken := idx }
    if t.isPunct "(" then
      advance
      -- calling conventions after the parenthesis belong to the declarator within
      skipTypeAttributes n
      let nxt ← peek
      let grouping ←
        if naming == .named || naming == .member then pure true
        else if nxt.isPunct ")" then pure false
        else if ← startsSpecifiersAt 0 then pure false
        else pure true
      if grouping then
        let _ ← attributes n {}
        let inner ← declarator n naming fnContext
        closeWith ")"
        return ← suffixes n fnContext { inner with chunks := inner.chunks ++ [.paren] }
      let here ← peek
      let d : Declarator := { namePos := here.pos, nameToken := ← index }
      let c ← parameterList n fnContext t.pos
      return ← suffixes n fnContext { d with chunks := [c] }
    if naming == .named || naming == .member then
      report t.pos (if naming == .member then "expected member name or ';' after declaration specifiers"
        else "expected identifier or '('")
      let d ← suffixes n fnContext { namePos := t.pos, nameToken := idx }
      return { d with invalid := true }
    suffixes n fnContext { namePos := t.pos, nameToken := idx }

/-- Reads the parameter lists and array brackets after a declarator's name. -/
def suffixes (fuel : Nat) (fnContext : Bool) (d : Declarator) : Read Declarator := do
  match fuel with
  | 0 => return d
  | n + 1 =>
    if ← atPunct "(" then
      let lp ← next
      let declares := fnContext && d.chunks.all (· matches .paren)
      let c ← parameterList n declares lp.pos
      let d := { d with chunks := d.chunks ++ [c] }
      let d ← if (← get).cxx then functionTail n d else pure d
      suffixes n fnContext d
    else if ← atStandardAttributes then
      let _ ← standardAttributes n {}
      suffixes n fnContext d
    else if ← atPunct "[" then
      match ← bracketSuffix n with
      | some c => suffixes n fnContext { d with chunks := d.chunks ++ [c] }
      | none => suffixes n fnContext { d with invalid := true }
    else return d

/-- Reads what C++ writes after the parameter list of a function declarator: the qualifiers of
a member function, `noexcept` or `throw(...)`, attributes, and a trailing return type. -/
def functionTail (fuel : Nat) (d : Declarator) : Read Declarator := do
  match fuel with
  | 0 => return d
  | n + 1 =>
    let t ← peek
    if (← keywordIn t ["const", "volatile"]) || t.isPunct "&" || t.isPunct "&&" then
      advance
      functionTail n d
    else if ← keywordIn t ["noexcept", "throw"] then
      advance
      if ← atPunct "(" then skipBracketed
      functionTail n d
    else if ← atStandardAttributes then
      let _ ← standardAttributes n {}
      functionTail n d
    else if t.isPunct "->" then
      advance
      let ty ← typeName n
      functionTail n { d with trailing := some ty }
    else return d

/-- Reads a parameter list after its `(`. -/
def parameterList (fuel : Nat) (declaresFunction : Bool) (lparen : Position) : Read Chunk := do
  match fuel with
  | 0 => return .paren
  | n + 1 =>
    openPrototype declaresFunction
    let t ← peek
    let nxt ← peekAt 1
    let isList := !(← c23) && (← isPlainIdent t) && !(← namesTypeAt 0) &&
      (nxt.isPunct "," || nxt.isPunct ")")
    let chunk ←
      if isList then do
        let ids ← identifierList n []
        closeWith ")"
        pure (Chunk.function [] false false lparen [] ids none)
      else do
        let (params, ellipsis) ← if t.isPunct ")" then pure ([], none) else parameters n #[]
        closeWith ")"
        let proto := !params.isEmpty || (← c23)
        if !proto && ellipsis.isNone then
          warn (.ext "strict-prototypes") lparen
            "a function declaration without a prototype is deprecated in all versions of C"
        let params ← withoutVoidOnly params ellipsis.isSome lparen
        pure (Chunk.function params ellipsis.isSome proto lparen [] [] ellipsis)
    let declared ← closeScope
    match chunk with
    | .function ps v p pos _ ids el =>
      return .function ps v p pos (if declaresFunction then declared else []) ids el
    | c => return c

/-- Reads the identifiers of a parameter list without types. -/
def identifierList (fuel : Nat) (acc : List (String × Position)) : Read (List (String × Position)) := do
  match fuel with
  | 0 => return acc
  | n + 1 =>
    let t ← peek
    if !(← isPlainIdent t) then
      reportHere "expected identifier"
      let _ ← skipTo [")"] { stopAtSemi := true, stopBeforeMatch := true }
      return []
    advance
    let acc ← if acc.any (·.1 == t.text) then do
        report t.pos ("redefinition of parameter '" ++ t.text ++ "'")
        pure acc
      else pure (acc ++ [(t.text, t.pos)])
    if ← accept "," then identifierList n acc else return acc

/-- Reads the parameter declarations of a parameter list, and a closing `...`. -/
def parameters (fuel : Nat) (acc : Array Nat) : Read (List Nat × Option Position) := do
  match fuel with
  | 0 => return (acc.toList, none)
  | n + 1 =>
    if ← atPunct "..." then
      let e ← next
      return (acc.toList, some e.pos)
    let start ← peek
    let ds ← specifiers n .param { start := start.pos }
    let d ← declarator n .either false
    let a ← attributes n {}
    let d := d.withAttrs a
    let acc ← if ds.empty && d.name.isNone && d.chunks.isEmpty then do
        report start.pos "expected parameter declarator"
        pure acc
      else do
        checkImplicitInt ds d
        let t ← buildType ds d
        let id ← declareParam ds d t
        pure (acc.push id)
    let cxx := (← get).cxx
    if ← atPunct "=" then
      let eq ← next
      let e ← if cxx && (← atPunct "\x7b") then initializerList n else assignment n
      if broken e then
        let _ ← skipTo [",", ")"] { stopAtSemi := true, stopBeforeMatch := true }
      else if !cxx then report eq.pos "C does not support default arguments"
    if ← atPunct "..." then
      let e ← next
      if !cxx then report e.pos "C requires a comma prior to the ellipsis in a variadic function type"
      return (acc.toList, some e.pos)
    if ← accept "," then parameters n acc
    else return (acc.toList, none)

/-- Reads an array suffix from its `[`; none when its size could not be read. -/
def bracketSuffix (fuel : Nat) : Read (Option Chunk) := do
  match fuel with
  | 0 => return none
  | n + 1 =>
    let lb ← next
    if ← accept "]" then return some (.array .incomplete {} false lb.pos lb.pos false)
    let mut isStatic ← isKeyword (← peek) "static"
    if isStatic then advance
    let (q, _) ← pointerQuals n {} #[]
    if !isStatic then
      if ← isKeyword (← peek) "static" then
        advance
        isStatic := true
    if (← atPunct "*") && (← peekAt 1).isPunct "]" then
      advance
      advance
      return some (.array .star q false lb.pos lb.pos false)
    if ← atPunct "]" then
      advance
      return some (.array .incomplete q isStatic lb.pos lb.pos false)
    let sizeTok ← peek
    let e ← assignment n
    if broken e then
      let _ ← skipTo ["]"] { stopAtSemi := true }
      return none
    closeWith "]"
    let ent ← entities
    if hasErrors e then
      return some (.array (.dependent (ent.exprText e)) q isStatic lb.pos sizeTok.pos false)
    let sizeType := ent.exprType e
    if (ent.arithmetic? sizeType).all (·.isFloating) then
      report sizeTok.pos ("size of array has non-integer type " ++ (← quoteType sizeType))
      return none
    match ← checkedConstant e with
    | some c =>
      return some (.array (.constant c.value.toNat) q isStatic lb.pos sizeTok.pos (c.value < 0))
    | none => return some (.array (.variable (ent.exprText e)) q isStatic lb.pos sizeTok.pos false)

/-- Reads a type name: specifiers and an abstract declarator. -/
def typeName (fuel : Nat) : Read Ty := do
  match fuel with
  | 0 => return .int
  | n + 1 =>
    let start ← peek
    let ds ← specifiers n .typeName { start := start.pos }
    let ds ← if !ds.hasType then do
        reportHere "expected a type"
        pure { ds with special := .error }
      else pure ds
    let ds ← onlyTypeSpecifiers ds
    let d ← declarator n .abstract false
    buildType ds d

/-- Reads an expression with commas. -/
def expression (fuel : Nat) : Read Expr := do
  match fuel with
  | 0 => return .invalid
  | n + 1 =>
    let a ← assignment n
    let t ← peek
    if ← accept "," then
      let b ← expression n
      return .comma a b t.pos
    return a

/-- Reads an assignment expression. -/
def assignment (fuel : Nat) : Read Expr := do
  match fuel with
  | 0 => return .invalid
  | n + 1 =>
    let lhs ← conditional n
    let t ← peek
    if t.kind == .punctuator && assignmentOps.contains t.text then
      advance
      let rhs ← assignment n
      return ← assignOperation t.text lhs rhs t.pos
    return lhs

/-- Reads a conditional expression. -/
def conditional (fuel : Nat) : Read Expr := do
  match fuel with
  | 0 => return .invalid
  | n + 1 =>
    let c ← binaryFrom n 1 (← castExpr n)
    let q ← peek
    if ← accept "?" then
      let omitted ← atPunct ":"
      let a ← if omitted then pure c else expression n
      if !(← accept ":") then
        reportHere "expected ':'"
        return .invalid
      let b ← conditional n
      return ← conditionalOperation c (if omitted then none else some a) b q.pos
    return c

/-- Reads the binary operators of at least a precedence after a left operand. -/
def binaryFrom (fuel : Nat) (minPrec : Nat) (lhs : Expr) : Read Expr := do
  match fuel with
  | 0 => return lhs
  | n + 1 =>
    let t ← peek
    match precedence t with
    | some p =>
      if p < minPrec then return lhs
      advance
      let rhs ← binaryFrom n (p + 1) (← castExpr n)
      binaryFrom n minPrec (← binaryOperation t.text lhs rhs t.pos)
    | none => return lhs

/-- Reads a cast expression. -/
def castExpr (fuel : Nat) : Read Expr := do
  match fuel with
  | 0 => return .invalid
  | n + 1 =>
    if (← atPunct "(") && (← startsTypeNameAt 1) then
      let lparen ← next
      let t ← typeName n
      closeWith ")"
      if ← atPunct "\x7b" then
        let init ← initializerList n
        return ← trailers n lparen.pos (.compoundLiteral (completedArray (← entities) t init) init)
      let start ← peek
      let e ← castExpr n
      return ← castOperation t e lparen.pos start.pos
    unary n

/-- Reads a unary expression. -/
def unary (fuel : Nat) : Read Expr := do
  match fuel with
  | 0 => return .invalid
  | n + 1 =>
    let t ← peek
    if t.isPunct "++" || t.isPunct "--" then
      advance
      return ← unaryOperation t.text (← unary n) t.pos
    if ["&", "*", "+", "-", "~", "!"].any t.isPunct then
      advance
      return ← unaryOperation t.text (← castExpr n) t.pos
    if ← isKeyword t "sizeof" then
      advance
      if (← atPunct "(") && (← startsTypeNameAt 1) then
        advance
        let ty ← typeName n
        closeWith ")"
        if ← incompleteOperand t.pos "sizeof" ty then return .invalid
        return .sizeofType ty
      let start ← peek
      let a ← unary n
      if !hasErrors a then
        if ← incompleteOperand start.pos "sizeof" ((← entities).exprType a) then return .invalid
      return .sizeofExpr a
    if ← keywordIn t ["_Alignof", "__alignof", "__alignof__", "alignof"] then
      advance
      let preferred := t.text == "__alignof" || t.text == "__alignof__"
      let s ← get
      let keyword := if preferred || s.standard == .c89 || s.standard == .c99 then "__alignof"
        else "_Alignof"
      let trait := if preferred then "__alignof" else "alignof"
      if (← atPunct "(") && (← startsTypeNameAt 1) then
        advance
        let ty ← typeName n
        closeWith ")"
        if ← incompleteOperand t.pos trait ty then return .invalid
        return .alignofType keyword ty
      let start ← peek
      let a ← unary n
      if !hasErrors a then
        if ← incompleteOperand start.pos trait ((← entities).exprType a) then return .invalid
      return .alignofExpr keyword a
    if ← keywordIn t ["__extension__", "__real", "__real__", "__imag", "__imag__"] then
      advance
      let op := if t.text.startsWith "__real" then "__real"
        else if t.text.startsWith "__imag" then "__imag" else "__extension__"
      return ← unaryOperation op (← castExpr n) t.pos
    trailers n t.pos (← primary n)

/-- Reads a braced initializer list from its `\x7b`. -/
def initializerList (fuel : Nat) : Read Expr := do
  match fuel with
  | 0 => return .invalid
  | n + 1 =>
    let brace ← next
    let s ← get
    if (← atPunct "\x7d") && !s.cxx && s.standard != .c23 then
      warn (.ext "c23-extensions") brace.pos "use of an empty initializer is a C23 extension"
    let items ← initializerItems n []
    closeWith "\x7d"
    return .initList items

/-- Reads the initializers of a braced list, up to its `\x7d`. -/
def initializerItems (fuel : Nat) (acc : List Expr) : Read (List Expr) := do
  match fuel with
  | 0 => return acc
  | n + 1 =>
    if ← atPunct "\x7d" then return acc
    let (d, index) ← if (← isPlainIdent (← peek)) && (← peekAt 1).isPunct ":" then do
        let m ← next
        advance
        pure (m.text ++ ":", none)
      else designators n "" none
    if !d.isEmpty && !d.endsWith ":" then
      let _ ← accept "="
    let value ← if ← atPunct "\x7b" then initializerList n else assignment n
    let acc := acc ++ [if d.isEmpty then value else .designated d index value]
    if value matches .invalid then
      let _ ← skipTo ["\x7d"] { stopBeforeMatch := true }
      return acc
    if ← accept "," then initializerItems n acc else return acc

/-- Reads the designators before an initializer, giving them as printed, with the element that
the first of them names when it is an array designator: the last one of a range. -/
def designators (fuel : Nat) (acc : String) (index : Option Nat) : Read (String × Option Nat) := do
  match fuel with
  | 0 => return (acc, index)
  | n + 1 =>
    if ← atPunct "." then
      advance
      let m ← peek
      if !(← isPlainIdent m) then
        reportHere "expected a field designator, such as '.field = 4'"
        return (acc, index)
      advance
      designators n (acc ++ "." ++ m.text) index
    else if ← atPunct "[" then
      advance
      let i ← conditional n
      let ent ← entities
      let (text, last) ← if ← accept "..." then do
          let j ← conditional n
          pure (ent.exprText i ++ " ... " ++ ent.exprText j, j)
        else pure (ent.exprText i, i)
      closeWith "]"
      let index := if acc.isEmpty then (ent.constantValue last).map (·.value.toNat) else index
      designators n (acc ++ "[" ++ text ++ "]") index
    else return (acc, index)

/-- Reads the member designator of `__builtin_offsetof`: a member name, then members after `.`
and indices in `[]`, each with the places its checks report at. -/
def offsetSteps (fuel : Nat) (acc : Array OffsetStep) : Read (Option (Array OffsetStep)) := do
  match fuel with
  | 0 => return some acc
  | n + 1 =>
    if acc.isEmpty || (← atPunct ".") then
      let start ← peek
      if !acc.isEmpty then advance
      let m ← peek
      if !(← isPlainIdent m) then
        reportHere "expected identifier"
        let _ ← skipTo [")"] { stopAtSemi := true }
        return none
      advance
      offsetSteps n (acc.push (.member m.text start.pos m.pos))
    else if ← atPunct "[" then
      advance
      let first ← peek
      let i ← expression n
      if hasErrors i then
        let _ ← skipTo [")"] { stopAtSemi := true }
        return none
      let close ← peek
      closeWith "]"
      offsetSteps n (acc.push (.index i first.pos close.pos))
    else return some acc

/-- Checks the member designator of `__builtin_offsetof` written at `at_` within a type, giving
it as printed and the offset it stands for when it is known; none when it is an error. The type
must be a complete record, each member a member of the record before it and no bit-field, and
each index must follow an array. -/
def offsetDesignator (at_ : Position) (t : Ty) (steps : List OffsetStep) :
    Read (Option (String × Option Nat)) := do
  let ent ← entities
  if (ent.tagOf? t).all (fun i => (ent.tag i).kind == .enum) then
    report at_ ("offsetof requires struct, union, or class type, " ++ (← quoteType t) ++ " invalid")
    return none
  if ent.isIncomplete t then
    report at_ ("offsetof of incomplete type " ++ (← quoteType t))
    return none
  let mut current := t
  let mut path := ""
  let mut bits : Option Nat := some 0
  for step in steps do
    match step with
    | .index i first close =>
      match ent.bare current with
      | .array _ el .. =>
        if !((ent.arithmetic? (ent.exprType i)).any Builtin.isInteger) then
          report first "array subscript is not an integer"
          return none
        let size := (ent.layout Entities.depthLimit el).map (·.1)
        bits := do some ((← bits) + 8 * (← ent.constantValue i).value.toNat * (← size))
        path := path ++ "[" ++ ent.exprText i ++ "]"
        current := el
      | _ =>
        report close ("offsetof requires array type, " ++ (← quoteType current) ++ " invalid")
        return none
    | .member name start namePos =>
      if ent.isIncomplete current then
        report start ("offsetof of incomplete type " ++ (← quoteType current))
        return none
      match ent.tagOf? current with
      | some i =>
        if (ent.tag i).kind == .enum then
          report namePos ("offsetof requires struct, union, or class type, " ++ (← quoteType current) ++
            " invalid")
          return none
        match ent.memberNamed Entities.depthLimit current name with
        | none =>
          report at_ ("no member named '" ++ name ++ "' in '" ++ (← recordName i) ++ "'")
          return none
        | some (mt, bitField, start) =>
          if bitField then
            report namePos ("cannot compute offset of bit-field '" ++ name ++ "'")
            return none
          bits := do some ((← bits) + (← start))
          path := if path.isEmpty then name else path ++ "." ++ name
          current := mt
      | none =>
        report namePos ("offsetof requires struct, union, or class type, " ++ (← quoteType current) ++
          " invalid")
        return none
  return some (path, bits.map (· / 8))

/-- Reads the suffixes of a postfix expression that starts at `start`: subscripts, calls, member
accesses and increments. -/
def trailers (fuel : Nat) (start : Position) (e : Expr) : Read Expr := do
  match fuel with
  | 0 => return e
  | n + 1 =>
    let t ← peek
    if t.isPunct "[" then
      advance
      let i ← expression n
      closeWith "]"
      let x ← subscriptOperation e i t.pos
      if x matches .invalid then return x
      trailers n start x
    else if t.isPunct "(" then
      advance
      let args ← if ← atPunct ")" then pure [] else arguments n []
      let rparen ← peek
      closeWith ")"
      trailers n start (← callOperation e args start t.pos rparen.pos)
    else if t.isPunct "." || t.isPunct "->" then
      advance
      let m ← peek
      if !(← isPlainIdent m) then
        reportHere "expected identifier"
        return .invalid
      advance
      let ent ← entities
      let base := ent.exprType e
      let arrow := t.isPunct "->"
      let object := if arrow then
          match ent.bare base with
          | .pointer _ p => p
          | other => other
        else base
      match ent.memberType Entities.depthLimit object m.text with
      | some mt => trailers n start (.member e m.text arrow (mt.addQuals (ent.bare object).quals) m.pos)
      | none =>
        if (ent.tagOf? object).isSome then
          report m.pos ("no member named '" ++ m.text ++ "' in " ++ (← quoteType object))
        else
          report t.pos ("member reference base type " ++ (← quoteType object) ++ " is not a structure or union")
        return .invalid
    else if t.isPunct "++" || t.isPunct "--" then
      advance
      trailers n start (← postfixOperation t.text e t.pos)
    else return e

/-- Reads the arguments of a call, each with the place it starts at. -/
def arguments (fuel : Nat) (acc : List (Expr × Position)) : Read (List (Expr × Position)) := do
  match fuel with
  | 0 => return acc
  | n + 1 =>
    let start ← peek
    let a ← assignment n
    let acc := acc ++ [(a, start.pos)]
    if ← accept "," then arguments n acc else return acc

/-- Reads a primary expression. -/
def primary (fuel : Nat) : Read Expr := do
  match fuel with
  | 0 => return .invalid
  | n + 1 =>
    let t ← peek
    match t.kind with
    | .number =>
      advance
      match NumberLiteral.read t.text with
      | .integer v radix sfx =>
        let s ← get
        if radix == 2 && !s.cxx && s.standard != .c23 then
          warn (.ext "c23-extensions") t.pos "binary integer literals are a C23 extension"
        if sfx.sizeT then report t.pos "'size_t' suffix for literals is a C++23 feature"
        if v ≥ Nat.pow 2 64 then
          report t.pos "integer literal is too large to be represented in any integer type"
        else if radix == 10 && !sfx.unsigned && !sfx.sizeT && v ≥ Nat.pow 2 63 then
          warn (.extWarn "implicitly-unsigned-literal") t.pos
            "integer literal is too large to be represented in a signed integer type, interpreting as unsigned"
        let b := literalType (← entities).model v (radix == 10) sfx
        if sfx.imaginary then
          warn (.ext "gnu-imaginary-constant") t.pos "imaginary constants are a GNU extension"
          return .imaginary (toString (v % Nat.pow 2 64) ++ Entities.integerSuffix b ++ "i") b
        return .integer (v % Nat.pow 2 64) b t.text
      | .floating size imaginary =>
        let b : Builtin := match size with
          | .float => .float
          | .longDouble => .longDouble
          | .float16 => .float16
          | .float128 => .float128
          | .double => .double
        let v := FloatValue.ofLiteral b.binaryFormat t.text
        let f := b.binaryFormat
        if v matches .infinite _ then
          warn (.on "literal-range") t.pos ("magnitude of floating-point constant too large for type " ++
            (← quoteType (.builtin {} b)) ++ "; maximum is " ++ f.largest.print f)
        else if v.isZero && literalHasValue t.text then
          warn (.on "literal-range") t.pos ("magnitude of floating-point constant too small for type " ++
            (← quoteType (.builtin {} b)) ++ "; minimum is " ++ f.smallest.print f)
        if imaginary then
          warn (.ext "gnu-imaginary-constant") t.pos "imaginary constants are a GNU extension"
          return .imaginary (Entities.printFloating v b ++ "i") b
        return .floating v b
      | .invalid errors =>
        for (at_, message) in errors do report (t.byteAt at_) message
        return .invalid
    | .character =>
      advance
      let l := CharacterLiteral.read (← entities).model ((← get).standard == .c23) t.text
      for (at_, message) in l.errors do report (t.byteAt at_) message
      for message in l.warnings do
        warn (.on (if message.startsWith "multi" then "multichar" else "")) t.pos message
      if l.spoiled then return .invalid
      let model := (← entities).model
      let cxx := (← get).cxx
      let b : Builtin := match l.kind with
        | .plain => if cxx && l.units.length == 1 then .char else .int
        | .wide => model.wcharType
        | .utf8 => .unsignedChar
        | .utf16 => .unsignedShort
        | .utf32 => .unsignedInt
      return .character (l.value model) l.kind b
    | .string =>
      let toks ← stringTokens n []
      let lit := joinStrings (← entities).model ((← get).standard == .c23) (toks.map (·.text))
      for (i, at_, message) in lit.errors do report ((toks.getD i t).byteAt at_) message
      if lit.spoiled then return .invalid
      return .string lit.kind lit.units
    | .identifier =>
      let s ← get
      if s.keywords.contains t.text then
        if t.text == "true" || t.text == "false" then
          advance
          return .integer (if t.text == "true" then 1 else 0) .bool t.text
        if t.text == "__builtin_offsetof" then
          advance
          if !(← accept "(") then
            reportHere "expected '('"
            return .invalid
          let ty ← typeName n
          if !(← accept ",") then
            reportHere "expected ','"
            let _ ← skipTo [")"] {}
            return .invalid
          let some steps ← offsetSteps n #[] | return .invalid
          if !(← atPunct ")") then
            closeWith ")"
            return .invalid
          advance
          match ← offsetDesignator t.pos ty steps.toList with
          | some (path, offset) => return .offsetof ty path offset
          | none => return .invalid
        if t.text == "__builtin_types_compatible_p" then
          advance
          if !(← accept "(") then
            reportHere "expected '('"
            return .invalid
          let a ← typeName n
          let _ ← accept ","
          let b ← typeName n
          closeWith ")"
          let ent ← entities
          return .typesCompatible a b ((ent.canonical a).setQuals {} == (ent.canonical b).setQuals {})
        if t.text == "__builtin_va_arg" then
          advance
          let _ ← accept "("
          let _ ← assignment n
          let _ ← accept ","
          let ty ← typeName n
          closeWith ")"
          return .cast ty .invalid
        if t.text == "__builtin_choose_expr" then
          advance
          if !(← accept "(") then
            reportHere "expected '('"
            return .invalid
          let c ← assignment n
          let _ ← accept ","
          let a ← assignment n
          let _ ← accept ","
          let b ← assignment n
          closeWith ")"
          let first := match (← entities).constantValue c with
            | some v => v.value != 0
            | none => true
          return .choose c a b first
        if t.text == "_Generic" then
          advance
          return ← genericSelection n
        if sourceLocationBuiltins.contains t.text then
          advance
          if !(← accept "(") then
            reportHere "expected '('"
            return .invalid
          closeWith ")"
          return .sourceLocation t.text (sourceLocationValue t)
        if ["__func__", "__FUNCTION__", "__PRETTY_FUNCTION__"].contains t.text then
          advance
          return .string .plain []
        if s.cxx then
          if t.text == "nullptr" then
            advance
            return .integer 0 .nullptr "nullptr"
          if ["static_cast", "reinterpret_cast", "const_cast", "dynamic_cast"].contains t.text then
            advance
            if !(← accept "<") then
              reportHere "expected '<'"
              return .invalid
            let ty ← typeName n
            closeWith ">"
            if !(← accept "(") then
              reportHere "expected '('"
              return .invalid
            let e ← expression n
            closeWith ")"
            if broken e then return .invalid
            return .cast ty e
        reportHere "expected expression"
        return .invalid
      if s.cxx && (← peekAt 1).isPunct "::" then return ← qualifiedName
      advance
      match ← lookupName t.text with
      | some (.enumerator v ty) =>
        noteEnumeratorUse t.pos t.text
        return .enumerator t.text v ty
      | some (.constant v ty) =>
        noteUse t.pos t.text (← nameMarks t.text)
        return .enumerator t.text v ty
      | some (.object ty _) =>
        noteUse t.pos t.text (← nameMarks t.text)
        return .variable t.text ty
      | some .invalid => return .recovery []
      | some (.function ty ..) =>
        noteUse t.pos t.text (← nameMarks t.text)
        return .variable t.text ty
      | some (.typedef _) =>
        report t.pos ("unexpected type name '" ++ t.text ++ "': expected expression")
        return .invalid
      | none =>
        let model := (← entities).model
        let builtin := builtinFunction? s.builtins t.text
        if let some b := builtin then
          if !b.isLibrary then return .variable t.text (b.type model)
        if !s.cxx then
          if let some ty ← implicitLibraryFunction t builtin then return .variable t.text ty
        if (← atPunct "(") && !s.cxx then
          if t.text.startsWith "__builtin_" then
            warn (.error "implicit-function-declaration") t.pos ("use of unknown builtin '" ++ t.text ++ "'")
          else if s.standard.atLeast99 then
            warn (.error "implicit-function-declaration") t.pos ("call to undeclared function '" ++
              t.text ++ "'; ISO C99 and later do not support implicit function declarations")
          else
            warn (.off "implicit-function-declaration") t.pos
              ("implicit declaration of function '" ++ t.text ++ "'")
          let implicit : Ty := .function .int [] false false
          bindUnitName t.text (.function implicit false false)
          return .variable t.text implicit
        report t.pos ("use of undeclared identifier '" ++ t.text ++ "'")
        return .undeclared t.text
    | .punctuator =>
      if (← get).cxx && t.isPunct "::" then return ← qualifiedName
      if (← get).cxx && t.isPunct "[" then
        skipLambda
        return .recovery []
      if t.isPunct "(" then
        advance
        if ← atPunct "\x7b" then
          skipBracketed
          closeWith ")"
          return .invalid
        let e ← expression n
        if broken e then
          -- what could not be read has been reported: the rest up to the ')' goes unread
          let _ ← skipTo [")"] { stopAtSemi := true }
          return .invalid
        closeWith ")"
        return .paren e
      reportHere "expected expression"
      return .invalid
    | _ =>
      reportHere "expected expression"
      return .invalid

/-- Reads a generic selection after its keyword, and selects the association whose type is
compatible with that of the controlling expression after lvalue conversion, or else the default
one. -/
def genericSelection (fuel : Nat) : Read Expr := do
  match fuel with
  | 0 => return .invalid
  | n + 1 =>
    if !(← accept "(") then
      reportHere "expected '('"
      return .invalid
    let control ← assignment n
    let assocs ← associations n []
    closeWith ")"
    let ent ← entities
    let wanted := (ent.canonical (ent.valueType control)).setQuals {}
    let matching := assocs.findIdx? fun (t, _) => match t with
      | some t => ent.canonical t == wanted
      | none => false
    let chosen := matching <|> assocs.findIdx? (·.1.isNone)
    return .generic control assocs chosen

/-- Reads the associations of a generic selection, each after its comma. -/
def associations (fuel : Nat) (acc : List (Option Ty × Expr)) : Read (List (Option Ty × Expr)) := do
  match fuel with
  | 0 => return acc
  | n + 1 =>
    if !(← accept ",") then return acc
    let t ← if ← isKeyword (← peek) "default" then do
        advance
        pure none
      else some <$> typeName n
    if !(← accept ":") then
      reportHere "expected ':'"
      return acc
    let v ← assignment n
    associations n (acc ++ [(t, v)])

/-- Reads a static assertion and checks it. -/
def staticAssert (fuel : Nat) : Read Unit := do
  match fuel with
  | 0 => pure ()
  | n + 1 =>
    let kw ← next
    if !(← accept "(") then
      reportHere "expected '('"
      skipDeclaration
      return
    let start ← peek
    let first := (← get).pos
    let e ← conditional n
    if hasErrors e then
      skipDeclaration
      return
    let mut msg : Option String := none
    if !(← atPunct ")") then
      if ← expectAndConsume "," "expected ','" then
        let _ ← skipTo [";"] {}
        return
      if (← peek).kind == .string then
        match ← messageText n "" true with
        | some m => msg := some m
        | none =>
          skipDeclaration
          return
      else
        reportHere "expected string literal for diagnostic message in static_assert"
        skipDeclaration
        return
    closeWith ")"
    let _ ← expectSemi ("expected ';' after " ++ kw.text)
    let ent ← entities
    match ← checkedConstant e with
    | none =>
      report (← notConstantPlace e start.pos) "static assertion expression is not an integral constant expression"
    | some c =>
      if c.value == 0 then
        let tail := match msg with
          | some m => ": " ++ m
          | none => ""
        let tokens := (← get).tokens
        let (inner, at_) := failedCondition ent tokens first e
        match inner with
        | Expr.integer .. => report start.pos ("static assertion failed" ++ tail)
        | _ =>
          report (tokens.getD at_ start).pos
            ("static assertion failed due to requirement '" ++ ent.exprText inner ++ "'" ++ tail)

end

end Read

end NativeBindings.Header
