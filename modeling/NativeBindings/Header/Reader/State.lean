import NativeBindings.Header.Decl
import NativeBindings.Header.Expr
import NativeBindings.Header.Keywords
import NativeBindings.Header.Pragma

/-!
# The state of reading declarations

Declarations are read from the preprocessed tokens of a unit by recursive descent. `State`
is what reading carries along: the tokens and the place in them, the tables of types, the
declarations made so far, the scopes that names are looked up in, and the messages.

A message is stamped with the number of the token that reading stood at, so that messages
of reading and of preprocessing can be put back into one order.

There are two kinds of scopes here: the unit's, and that of a parameter list. Names of
records, unions and enums live apart from the other names (typedef names, objects, functions
and enumerators). A record's members are not names of any scope.
-/

namespace NativeBindings.Header

/-- What an ordinary name stands for. -/
inductive Binding where
  | typedef (id : Nat)
  /-- A variable or a parameter, with its type; `internal` when a `static` declaration gave it
  internal linkage. -/
  | object (type : Ty) (internal : Bool)
  /-- A function with its type; `defined` when its body has been read, `internal` when a
  `static` declaration gave it internal linkage, `overloadable` when its declaration allows
  others of the name with other types. -/
  | function (type : Ty) (defined : Bool) (internal : Bool) (overloadable : Bool := false)
  | enumerator (value : Int) (type : Ty)
  /-- A C++ variable whose value is an integer constant that expressions may use: one declared
  `constexpr`, or `const` with a constant initializer. -/
  | constant (value : Int) (type : Ty)
  /-- A variable whose declaration names no valid type; it has been reported, and an expression
  that uses it is not read further. -/
  | invalid
deriving Inhabited, Repr

/-- A scope: the unit's, a parameter list's, or in C++ a namespace's, a record's or an enum's. -/
structure NameScope where
  /-- The scope of a parameter list. -/
  prototype : Bool := false
  /-- What the scope adds to the names of the scopes around it, as in `N::`; empty for the
  unit and a parameter list. -/
  qualifier : String := ""
  /-- What the scope adds where a type declared in it is written, which an inline namespace
  leaves out. -/
  shown : String := ""
  /-- The scopes whose names are found here too, by their full names: those of a
  `using namespace`, of an inline namespace and of a namespace without a name. -/
  usings : List String := []
  /-- A parameter list of the function that the declaration declares; the tags named in it
  belong to that function and leave the unit. -/
  declaresFunction : Bool := false
  tags : List (String × Nat) := []
  names : List (String × Binding) := []
  /-- The declarations of named tags made in this scope, newest first. -/
  declared : List Nat := []
deriving Inhabited, Repr

/-- A function declared at file scope, as the warnings about functions without a prototype
look back at it: its name, its place, whether it was written with a parameter type list, and
how many parameters it has. -/
structure FunctionSighting where
  name : String
  pos : Position
  prototyped : Bool
  params : Nat
deriving Inhabited, Repr

/-- What `deprecated` and `unavailable` attributes say of a declaration: the message of each
that was written, empty when the attribute gives none. A use of an unavailable declaration is
an error, one of a deprecated declaration a warning. -/
structure Availability where
  deprecated : Option String := none
  unavailable : Option String := none
deriving Inhabited, Repr, BEq

namespace Availability

/-- Whether no attribute marks the declaration. -/
def isEmpty (a : Availability) : Bool := a.deprecated.isNone && a.unavailable.isNone

/-- The marks of a declaration with those of an earlier one, which a redeclaration inherits;
the declaration's own messages come first. -/
def merge (own older : Availability) : Availability :=
  { deprecated := own.deprecated.orElse fun _ => older.deprecated,
    unavailable := own.unavailable.orElse fun _ => older.unavailable }

/-- Whether a use of a declaration marked `use` goes unreported inside a declaration marked
`context`: everything may be used inside an unavailable declaration, and what is deprecated
inside a deprecated one. -/
def allows (context use : Availability) : Bool :=
  context.unavailable.isSome || (use.unavailable.isNone && context.deprecated.isSome)

end Availability

/-- The state of reading. -/
structure State where
  tokens : Array Token
  pos : Nat := 0
  standard : Standard
  keywords : KeywordSet
  /-- The calling conventions that the target does not support, by their attribute names. -/
  unsupportedConventions : List String := []
  /-- Whether blocks are on, so that a block pointer is no error. -/
  blocks : Bool := false
  /-- Whether the unit is C++. -/
  cxx : Bool := false
  /-- Whether the reading is compatible with Microsoft's compiler. -/
  msvcCompat : Bool := false
  /-- Which builtin functions the unit knows. -/
  builtins : BuiltinContext := {}
  /-- The target, which decides the attributes known. -/
  target : Target := {}
  /-- The largest alignment of a member of a record where no pragma sets one (`0` for none). -/
  packStruct : Nat := 0
  /-- The C++ scopes that have been closed, by their full names (`N::S::`), to be opened again
  or searched by a qualified name. -/
  stored : List (String × NameScope) := []
  /-- Whether the unit is Objective-C, whose directives start with `@`. -/
  objc : Bool := false
  /-- The `#pragma pack` requests, in order, each with the number of tokens before it. -/
  packs : List (Nat × PackAction) := []
  /-- The `#pragma ms_struct` requests, in order, each with the number of tokens before it. -/
  msStructs : List (Nat × Bool) := []
  entities : Entities
  decls : Array Decl := #[]
  /-- The declarations of the unit's top level, in order. -/
  top : Array Nat := #[]
  /-- The members of the records being defined, innermost first. -/
  bodies : List (Array Nat) := []
  /-- Innermost first; the last is the unit's. -/
  scopes : List NameScope := [{}]
  /-- The marks of ordinary names by `deprecated` and `unavailable` attributes, newest first. -/
  markedNames : List (String × Availability) := []
  /-- The marks of tags, by their numbers. -/
  markedTags : List (Nat × Availability) := []
  /-- The enumerators of named enums: the enumerator, the enum's name and its tag. -/
  enumeratorTags : List (String × String × Nat) := []
  /-- The marks of the records and enums whose bodies are being read, innermost first. -/
  markedContexts : List Availability := []
  /-- The uses of marked declarations in the declaration being read, reported once it is
  complete and its own marks are known: the place, the name and the marks. -/
  pendingUses : Array (Position × String × Availability) := #[]
  /-- Each message with the number of the token that reading stood at. -/
  diagnostics : Array (Nat × Diagnostic) := #[]
  /-- Variables defined without initializer whose type may still be completed: the name,
  the place and the type. -/
  tentative : Array (String × Position × Ty) := #[]
  /-- The functions declared at file scope, the latest first. -/
  functions : List FunctionSighting := []
  /-- Brackets read and not yet closed: parentheses, square brackets, braces. -/
  parens : Nat := 0
  brackets : Nat := 0
  braces : Nat := 0
  /-- Tokens put in by reading itself, as a `;` that a missing one stands for. -/
  inserted : Nat := 0
deriving Inhabited

/-- Reading declarations. -/
abbrev Read := StateM State

namespace Read

/-- The token at the current place; the last token (end of file) once reading is past it. -/
def peek : Read Token := do
  let s ← get
  return s.tokens.getD s.pos (s.tokens.back?.getD default)

/-- The token `k` places ahead. -/
def peekAt (k : Nat) : Read Token := do
  let s ← get
  return s.tokens.getD (s.pos + k) (s.tokens.back?.getD default)

/-- The number of the current token. -/
def index : Read Nat := do return (← get).pos

/-- Counts a bracket that reading passes over. -/
def countBracket (s : State) (t : Token) : State :=
  if t.kind != .punctuator then s
  else match t.text with
    | "(" => { s with parens := s.parens + 1 }
    | ")" => { s with parens := s.parens - 1 }
    | "[" => { s with brackets := s.brackets + 1 }
    | "]" => { s with brackets := s.brackets - 1 }
    | "\x7b" => { s with braces := s.braces + 1 }
    | "\x7d" => { s with braces := s.braces - 1 }
    | _ => s

/-- Moves to the next token, never past the end of file. -/
def advance : Read Unit :=
  modify fun s =>
    if s.pos + 1 < s.tokens.size then
      { countBracket s (s.tokens.getD s.pos default) with pos := s.pos + 1 }
    else s

/-- Puts a `;` before the current token, where a missing one is taken to stand. -/
def insertSemicolon : Read Unit :=
  modify fun s =>
    let cur := s.tokens.getD s.pos default
    let semi : Token := { kind := .punctuator, text := ";", pos := cur.pos }
    { s with tokens := (s.tokens.extract 0 s.pos).push semi ++ s.tokens.extract s.pos s.tokens.size,
             inserted := s.inserted + 1 }

/-- Reads the current token. -/
def next : Read Token := do
  let t ← peek
  advance
  return t

/-- Whether the current token is the punctuator `p`. -/
def atPunct (p : String) : Read Bool := do return (← peek).isPunct p

/-- Reads the punctuator `p` if it is the current token. -/
def accept (p : String) : Read Bool := do
  if ← atPunct p then
    advance
    return true
  return false

/-- Whether reading is at the end of the unit. -/
def atEnd : Read Bool := do return (← peek).kind == .endOfFile

/-- The place just after the previous token, where a missing token is reported: a token made
by a macro has it only at the end of its expansion, and otherwise the current token's place
is used. -/
def afterPrevious : Read Position := do
  let s ← get
  let cur ← peek
  if s.pos == 0 then return cur.pos
  match (s.tokens.getD (s.pos - 1) default).finish with
  | some p => return p
  | none => return cur.pos

/-- Records an error at a place. -/
def report (pos : Position) (message : String) : Read Unit :=
  modify fun s =>
    { s with diagnostics := s.diagnostics.push (s.pos - s.inserted, ⟨some pos, message, false, none⟩) }

/-- Records an error that has no place. -/
def reportUnplaced (message : String) : Read Unit :=
  modify fun s =>
    { s with diagnostics := s.diagnostics.push (s.pos - s.inserted, ⟨none, message, false, none⟩) }

/-- Records a warning of a kind at a place; the options and pragmas decide at the end whether
it is an error. -/
def warn (w : Warning) (pos : Position) (message : String) : Read Unit :=
  modify fun s =>
    { s with diagnostics := s.diagnostics.push (s.pos - s.inserted, Diagnostic.warningAt w pos message) }

/-- Records a warning of a kind that has no place. -/
def warnUnplaced (w : Warning) (message : String) : Read Unit :=
  modify fun s =>
    { s with diagnostics := s.diagnostics.push (s.pos - s.inserted,
        { pos := none, message, warning := some w }) }

/-- Marks an ordinary name, keeping the marks of its earlier declarations. -/
def markName (n : String) (a : Availability) : Read Unit :=
  modify fun s =>
    let older := (s.markedNames.lookup n).getD {}
    if a.isEmpty then s else { s with markedNames := (n, a.merge older) :: s.markedNames }

/-- The marks of an ordinary name. -/
def nameMarks (n : String) : Read Availability := do
  return ((← get).markedNames.lookup n).getD {}

/-- Marks a tag, keeping the marks of its earlier declarations. -/
def markTag (i : Nat) (a : Availability) : Read Unit :=
  modify fun s =>
    let older := (s.markedTags.lookup i).getD {}
    if a.isEmpty then s else { s with markedTags := (i, a.merge older) :: s.markedTags }

/-- The marks of a tag. -/
def tagMarks (i : Nat) : Read Availability := do
  return ((← get).markedTags.lookup i).getD {}

/-- Notes a use of a declaration named `name` with its marks, to be reported when the
declaration being read is complete. -/
def noteUse (pos : Position) (name : String) (a : Availability) : Read Unit :=
  if a.isEmpty then pure ()
  else modify fun s => { s with pendingUses := s.pendingUses.push (pos, name, a) }

/-- Notes a use of an enumerator: its own marks, or else those of its enum, named by the
enum's name. -/
def noteEnumeratorUse (pos : Position) (name : String) : Read Unit := do
  let own ← nameMarks name
  if !own.isEmpty then return ← noteUse pos name own
  match (← get).enumeratorTags.find? (·.1 == name) with
  | some (_, enumName, i) => noteUse pos enumName (← tagMarks i)
  | none => pure ()

/-- Notes a use of the typedef name `name`, declaration `i`: its own marks, or else, when it
names a record or enum type, those of the tag, named by the tag's name. -/
def noteTypedefUse (pos : Position) (name : String) (i : Nat) : Read Unit := do
  let own ← nameMarks name
  if !own.isEmpty then return ← noteUse pos name own
  let e := (← get).entities
  match e.tagOf? (e.typedef i).underlying with
  | some tag =>
    match (e.tag tag).name with
    | some tagName => noteUse pos tagName (← tagMarks tag)
    | none => pure ()
  | none => pure ()

/-- Reports the uses noted in a declaration that is now complete, with its own marks `own`:
those that the declaration and the records around it do not allow. -/
def settleUses (own : Availability) : Read Unit := do
  let s ← get
  set { s with pendingUses := #[] }
  for (pos, name, a) in s.pendingUses do
    if !(own :: s.markedContexts).any (·.allows a) then
      let tail (m : String) := if m.isEmpty then "" else ": " ++ m
      match a.unavailable with
      | some m => report pos ("'" ++ name ++ "' is unavailable" ++ tail m)
      | none =>
        warn (.on "deprecated-declarations") pos
          ("'" ++ name ++ "' is deprecated" ++ tail (a.deprecated.getD ""))

/-- Records an error at the current token. -/
def reportHere (message : String) : Read Unit := do report (← peek).pos message

/-- Whether the unit is read as C23. -/
def c23 : Read Bool := do return (← get).standard == .c23

/-- Whether a token is the keyword `k`. -/
def isKeyword (t : Token) (k : String) : Read Bool := do
  let s ← get
  return t.kind == .identifier && t.text == k && s.keywords.contains k

/-- Whether a token is an identifier that is not a keyword. -/
def isPlainIdent (t : Token) : Read Bool := do
  let s ← get
  return t.kind == .identifier && !s.keywords.contains t.text

end Read

namespace State

/-- The open scopes with their full names, outermost first: each adds its qualifier to the
name of the one around it. -/
def openScopes (s : State) : List (String × NameScope) :=
  (s.scopes.reverse.foldl (fun (acc : List (String × NameScope) × String) sc =>
    let full := acc.2 ++ sc.qualifier
    ((full, sc) :: acc.1, full)) ([], "")).1.reverse

/-- The scope with a full name: an open one, the outermost of that name, or a closed one. -/
def scopeByName (s : State) (full : String) : Option NameScope :=
  ((s.openScopes.find? (·.1 == full)).map (·.2)).orElse fun _ => s.stored.lookup full

/-- Looks a name up in a scope and then in the scopes it takes names from, `fuel` levels deep;
`pick` chooses the table: ordinary names or tags. -/
def findIn {α : Type} (s : State) (pick : NameScope → List (String × α)) :
    Nat → NameScope → String → Option α
  | 0, sc, n => (pick sc).lookup n
  | fuel + 1, sc, n =>
    ((pick sc).lookup n).orElse fun _ =>
      sc.usings.findSome? fun u => (s.scopeByName u).bind fun t => s.findIn pick fuel t n

/-- How deep the scopes that scopes take names from are searched. -/
def usingDepth : Nat := 4

end State

namespace Read

/-- Looks an ordinary name up, innermost scope first. -/
def lookupName (n : String) : Read (Option Binding) := do
  let s ← get
  return s.scopes.findSome? fun sc => s.findIn (·.names) State.usingDepth sc n

/-- Looks an ordinary name up in the innermost scope only. -/
def lookupNameHere (n : String) : Read (Option Binding) := do
  return ((← get).scopes.head?.bind fun sc => sc.names.lookup n)

/-- The typedef that an identifier names here, if it names one. -/
def typedefNamed (n : String) : Read (Option Nat) := do
  match ← lookupName n with
  | some (.typedef i) => return some i
  | _ => return none

/-- Looks a tag name up, innermost scope first. -/
def lookupTag (n : String) : Read (Option Nat) := do
  let s ← get
  return s.scopes.findSome? fun sc => s.findIn (·.tags) State.usingDepth sc n

/-- What a name written as a type names in C++: a typedef or a record or enum. -/
inductive TypeRef where
  | typedef (id : Nat)
  | tag (id : Nat)
deriving Inhabited, Repr

/-- Looks a name up as C++ does where a type may stand, innermost scope first: in each scope an
ordinary name comes before a tag of the same name, and one that names no type hides the tags
around it. -/
def lookupType (n : String) : Read (Option TypeRef) := do
  let s ← get
  let inScope (sc : NameScope) : Option (Option TypeRef) :=
    match s.findIn (·.names) State.usingDepth sc n with
    | some (.typedef i) => some (some (.typedef i))
    | some _ => some none
    | none => (s.findIn (·.tags) State.usingDepth sc n).map fun i => some (.tag i)
  return (s.scopes.findSome? inScope).join

/-- The full name of the innermost scope. -/
def currentScopeName : Read String := do
  return ((← get).openScopes.getLast?.map (·.1)).getD ""

/-- What the open scopes put before the name of a type declared in the innermost one. -/
def shownScope : Read String := do
  return String.join ((← get).scopes.reverse.map (·.shown))

/-- The full name of the scope that a qualifier such as `A::B::` names from here: the
innermost open scope in which `A` names a scope, and `B` within it; from the unit's scope
when `global`. -/
def resolveQualifier (parts : List String) (global : Bool) : Read (Option String) := do
  let s ← get
  let bases := if global then [""] else (s.openScopes.map (·.1)).reverse ++ [""]
  let path := String.join (parts.map (· ++ "::"))
  return bases.find? (fun b => (s.scopeByName (b ++ path)).isSome) |>.map (· ++ path)

/-- Looks a name up in the scope with a full name. -/
def lookupNameIn (full : String) (n : String) : Read (Option Binding) := do
  let s ← get
  return (s.scopeByName full).bind fun sc => s.findIn (·.names) State.usingDepth sc n

/-- Looks a tag up in the scope with a full name. -/
def lookupTagIn (full : String) (n : String) : Read (Option Nat) := do
  let s ← get
  return (s.scopeByName full).bind fun sc => s.findIn (·.tags) State.usingDepth sc n

/-- Opens a C++ scope named `qualifier` within the innermost one, with what it held when it
was closed before; `shown` is what it puts before the names of types. -/
def openNamedScope (qualifier shown : String) : Read Unit := do
  let full := (← currentScopeName) ++ qualifier
  modify fun s =>
    let sc := ((s.stored.lookup full).getD {})
    { s with stored := s.stored.filter (·.1 != full),
             scopes := { sc with qualifier, shown } :: s.scopes }

/-- Closes the innermost C++ scope, keeping what it holds under its full name. -/
def closeNamedScope : Read Unit := do
  let full ← currentScopeName
  modify fun s => match s.scopes with
    | sc :: rest@(_ :: _) => { s with scopes := rest, stored := (full, sc) :: s.stored }
    | _ => s

/-- Keeps names as those of a closed scope with a full name, beside what it holds already. -/
def storeScope (full : String) (names : List (String × Binding)) : Read Unit :=
  modify fun s =>
    let sc := (s.stored.lookup full).getD {}
    { s with stored := (full, { sc with names := names.reverse ++ sc.names }) ::
                         s.stored.filter (·.1 != full) }

/-- Lets the innermost scope find the names of the scope with a full name. -/
def useScope (full : String) : Read Unit :=
  modify fun s => match s.scopes with
    | sc :: rest => { s with scopes := { sc with usings := sc.usings ++ [full] } :: rest }
    | [] => s

/-- Looks a tag name up in the innermost scope only. -/
def lookupTagHere (n : String) : Read (Option Nat) := do
  return ((← get).scopes.head?.bind fun sc => sc.tags.lookup n)

/-- Changes the innermost scope. -/
def modifyScope (f : NameScope → NameScope) : Read Unit :=
  modify fun s => match s.scopes with
    | sc :: rest => { s with scopes := f sc :: rest }
    | [] => s

/-- Binds an ordinary name in the innermost scope; a later binding hides an earlier one. -/
def bindName (n : String) (b : Binding) : Read Unit :=
  modifyScope fun sc => { sc with names := (n, b) :: sc.names }

/-- Binds an ordinary name in the unit's scope, as an implicit declaration of a function is. -/
def bindUnitName (n : String) (b : Binding) : Read Unit :=
  modify fun s =>
    match s.scopes.reverse with
    | unit :: inner => { s with scopes := (({ unit with names := (n, b) :: unit.names }) :: inner).reverse }
    | [] => s

/-- Binds a tag name in the innermost scope. -/
def bindTag (n : String) (i : Nat) : Read Unit :=
  modifyScope fun sc => { sc with tags := (n, i) :: sc.tags }

/-- Opens the scope of a parameter list. -/
def openPrototype (declaresFunction : Bool) : Read Unit :=
  modify fun s => { s with scopes := { prototype := true, declaresFunction } :: s.scopes }

/-- Closes the innermost scope, giving the declarations of named tags made in it. -/
def closeScope : Read (List Nat) := do
  let s ← get
  match s.scopes with
  | sc :: rest@(_ :: _) =>
    set { s with scopes := rest }
    return sc.declared.reverse
  | _ => return []

/-- The tables of types. -/
def entities : Read Entities := do return (← get).entities

/-- Adds a declaration, giving its number. -/
def addDecl (d : Decl) : Read Nat := do
  let s ← get
  set { s with decls := s.decls.push d }
  return s.decls.size

/-- Replaces a declaration. -/
def setDecl (i : Nat) (d : Decl) : Read Unit :=
  modify fun s => { s with decls := s.decls.set! i d }

/-- The declaration with a number. -/
def getDecl (i : Nat) : Read Decl := do return (← get).decls.getD i default

/-- Places a declaration in the innermost record being defined, or at the top level. -/
def place (i : Nat) : Read Unit :=
  modify fun s => match s.bodies with
    | b :: rest => { s with bodies := b.push i :: rest }
    | [] => { s with top := s.top.push i }

/-- Takes declarations out of the innermost record being defined, or out of the top level. -/
def unplace (ids : List Nat) : Read Unit :=
  if ids.isEmpty then pure ()
  else modify fun s => match s.bodies with
    | b :: rest => { s with bodies := b.filter (fun i => !ids.contains i) :: rest }
    | [] => { s with top := s.top.filter fun i => !ids.contains i }

/-- Adds a record or enum type, giving its number. -/
def newTag (d : TagDef) : Read Nat := do
  let s ← get
  set { s with entities := { s.entities with tags := s.entities.tags.push d } }
  return s.entities.tags.size

/-- Changes a record or enum type. -/
def modifyTag (i : Nat) (f : TagDef → TagDef) : Read Unit :=
  modify fun s => { s with entities := { s.entities with tags := s.entities.tags.modify i f } }

/-- Adds a typedef, giving its number. -/
def newTypedef (d : TypedefDef) : Read Nat := do
  let s ← get
  set { s with entities := { s.entities with typedefs := s.entities.typedefs.push d } }
  return s.entities.typedefs.size

/-- Passes over tokens up to the matching closing bracket of an opening one that has been
read, and over that bracket; stops at the end of the unit. -/
def skipGroup (fuel : Nat) (close : String) : Read Unit := do
  match fuel with
  | 0 => pure ()
  | fuel + 1 =>
    let t ← peek
    if t.kind == .endOfFile then return
    advance
    if t.isPunct close then return
    if t.isPunct "(" then skipGroup fuel ")"
    else if t.isPunct "[" then skipGroup fuel "]"
    else if t.isPunct "\x7b" then skipGroup fuel "\x7d"
    skipGroup fuel close

/-- As many steps as there are tokens left, and some. -/
def budget : Read Nat := do
  let s ← get
  return 4 * (s.tokens.size - s.pos) + 16

/-- Passes over a bracketed group whose opening bracket is the current token. -/
def skipBracketed : Read Unit := do
  let t ← next
  let close := if t.isPunct "(" then ")" else if t.isPunct "[" then "]" else "\x7d"
  skipGroup (← budget) close

/-- The number of arguments in the parentheses that open at the current token: one more than
the commas outside inner brackets, or none when nothing stands between the parentheses. -/
def argumentCount : Read Nat := do
  let s ← get
  let mut depth := 0
  let mut commas := 0
  let mut any := false
  for k in [1:s.tokens.size + 1] do
    let t ← peekAt k
    if t.kind == .endOfFile then break
    if depth == 0 && t.isPunct ")" then break
    if t.isPunct "(" || t.isPunct "[" || t.isPunct "\x7b" then depth := depth + 1
    else if t.isPunct ")" || t.isPunct "]" || t.isPunct "\x7d" then depth := depth - 1
    else if depth == 0 && t.isPunct "," then commas := commas + 1
    any := true
  return if any then commas + 1 else 0

end Read

end NativeBindings.Header
