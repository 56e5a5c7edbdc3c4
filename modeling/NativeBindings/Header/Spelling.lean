import NativeBindings.Header.Entity

/-!
# Spelling types

`Entities.spell t` is the C text of a type as the front end writes it in names and messages:
`int`, `const char *`, `int (*)[4]`, `void (int, ...)`, `struct S`, `struct (unnamed at
FILE:L:C)`. The text is built in two parts around the place where a declared name would
stand (the placeholder): what comes before it and what comes after. Parentheses group a
pointer with a function or array it points to; qualifiers go before a type that can take
them in front and after a pointer; a function without parameters shows `void`.

A record or enum without a name is written with the place of its definition; one named by a
typedef is written with that name.
-/

namespace NativeBindings.Header

namespace Entities

/-- Whether qualifiers may be written in front of a type. -/
def canPrefixQuals : Nat → Ty → Bool
  | 0, _ => true
  | fuel + 1, t =>
    match t with
    | .array _ el .. => canPrefixQuals fuel el
    | .pointer .. | .blockPointer .. | .vector .. | .function .. | .decayed .. | .reference .. => false
    | .attributed _ m _ => canPrefixQuals fuel m
    | _ => true

/-- The spelling of a record or enum; without its keyword when `suppress` holds, as when the
type is named in source and its keyword, if any, is written there. C++ writes no keyword, and
the scopes of the type before it unless the type is named in source. -/
def tagText (e : Entities) (i : Nat) (suppress : Bool) : String :=
  let d := e.tag i
  let named := d.name.isNone && d.typedefName.isSome
  let withKeyword := !suppress && !named && !e.cxx
  let head := if withKeyword then d.kind.keyword ++ " "
    else if e.cxx && !suppress then d.scope else ""
  let body := match d.name with
    | some n => n
    | none =>
      match d.typedefName with
      | some t => t
      | none =>
        "(" ++ (if d.anonymousMember then "anonymous" else "unnamed") ++
          (if withKeyword then "" else " " ++ d.kind.keyword) ++ " at " ++
          (d.pos.presumed e.lineMarks).render ++ ")"
  head ++ body

/-- A blank before the placeholder when there is one. -/
def gap (ph : Bool) : String := if ph then "" else " "

mutual

/-- The text of a type before the placeholder; `ph` tells whether the placeholder is empty. -/
def before (e : Entities) (ph : Bool) : Nat → Ty → String
  | 0, _ => ""
  | fuel + 1, t =>
    match t with
    | .attributed a m eq =>
      -- an address space is written among the qualifiers, a keyword after the type it marks
      if a == .addressSpace then before e ph fuel eq
      else before e ph fuel m ++ " " ++ a.keyword ++ gap ph
    | _ =>
    let q := t.quals
    let leading := canPrefixQuals fuel t
    let front := if leading && !q.isEmpty then q.render ++ " " else ""
    let late := !leading && !q.isEmpty
    let body := beforeNode e (if late then false else ph) fuel t
    front ++ body ++ (if late then q.render ++ gap ph else "")

/-- The text before the placeholder of a node, qualifiers aside. -/
def beforeNode (e : Entities) (ph : Bool) : Nat → Ty → String
  | 0, _ => ""
  | fuel + 1, t =>
    match t with
    | .builtin _ b => b.name e.c23 ++ gap ph
    | .complex _ el => "_Complex " ++ before e ph fuel el
    | .pointer _ p =>
      let isArr := match p with
        | .array .. => true
        | _ => false
      before e false fuel p ++ (if isArr then "(" else "") ++ "*"
    | .blockPointer _ p => before e false fuel p ++ "^"
    | .reference r p =>
      let isArr := match p with
        | .array .. => true
        | _ => false
      before e false fuel p ++ (if isArr then "(" else "") ++ (if r then "&&" else "&")
    | .objcObject _ n => n ++ gap ph
    | .array _ el .. => before e ph fuel el
    | .function r .. => before e false fuel r ++ (if ph then "" else "(")
    | .tag _ i => e.tagText i false ++ gap ph
    | .elaborated _ k n qualifier =>
      let kw := match k with
        | some k => k.keyword ++ " "
        | none => ""
      let inner := match n with
        | .tag _ i => e.tagText i true ++ gap ph
        | .typedef _ i => (e.typedef i).name ++ gap ph
        | other => beforeNode e ph fuel other
      kw ++ qualifier ++ inner
    | .typedef _ i =>
      (if e.cxx then (e.typedef i).scope else "") ++ (e.typedef i).name ++ gap ph
    | .decltype _ s _ => "decltype(" ++ s ++ ")" ++ gap ph
    | .decayed _ a => before e ph fuel a
    | .vector _ el n extended =>
      if extended then before e ph fuel el
      else
        "__attribute__((__vector_size__(" ++ toString n ++ " * sizeof(" ++ spellWith e fuel el ++
          ")))) " ++ before e ph fuel el
    | .typeofExpr _ s _ x => (if x then "typeof_unqual " else "typeof ") ++ s ++ gap ph
    | .typeofType _ i x => (if x then "typeof_unqual(" else "typeof(") ++ spellWith e fuel i ++ ")" ++ gap ph
    | .atomic _ i => "_Atomic(" ++ spellWith e fuel i ++ ")" ++ gap ph
    | .bitInt _ u n => (if u then "unsigned " else "") ++ "_BitInt(" ++ toString n ++ ")" ++ gap ph
    | .attributed .. => before e ph fuel t
    | .invalid => "int" ++ gap ph

/-- The text of a type after the placeholder. -/
def after (e : Entities) (ph : Bool) : Nat → Ty → String
  | 0, _ => ""
  | fuel + 1, t =>
    match t with
    | .pointer _ p =>
      let isArr := match p with
        | .array .. => true
        | _ => false
      (if isArr then ")" else "") ++ after e false fuel p
    | .blockPointer _ p => after e false fuel p
    | .reference _ p =>
      let isArr := match p with
        | .array .. => true
        | _ => false
      (if isArr then ")" else "") ++ after e false fuel p
    | .array _ el size iq st =>
      let inside := match size with
        | .constant n =>
          (if iq.isEmpty then "" else iq.render ++ " ") ++ (if st then "static " else "") ++ toString n
        | .incomplete => ""
        | .variable s | .dependent s =>
          (if iq.isEmpty then "" else iq.render ++ " ") ++ (if st then "static " else "") ++ s
        | .star => (if iq.isEmpty then "" else iq.render ++ " ") ++ "*"
      "[" ++ inside ++ "]" ++ after e ph fuel el
    | .function r ps v proto =>
      let params :=
        if !proto then ""
        else
          let shown := ps.map (spellWith e fuel)
          ", ".intercalate shown ++
            (if v then (if ps.isEmpty then "..." else ", ...")
             else if ps.isEmpty && !e.cxx then "void" else "")
      (if ph then "" else ")") ++ "(" ++ params ++ ")" ++ after e false fuel r
    | .elaborated _ _ n _ => after e ph fuel n
    | .decayed _ a => after e ph fuel a
    | .attributed a m eq => after e ph fuel (if a == .addressSpace then eq else m)
    | .complex _ el => after e ph fuel el
    | .vector _ el n extended =>
      after e ph fuel el ++
        (if extended then " __attribute__((ext_vector_type(" ++ toString n ++ ")))" else "")
    | _ => ""

/-- The spelling of a type with an empty placeholder. -/
def spellWith (e : Entities) : Nat → Ty → String
  | 0, _ => ""
  | fuel + 1, t => before e true fuel t ++ after e true fuel t

end

/-- The spelling of a type. -/
def spell (e : Entities) (t : Ty) : String := e.spellWith depthLimit t

/-- The spelling of a declaration of `name` with a type, as in `int (*name)[4]`. -/
def spellDeclaration (e : Entities) (t : Ty) (name : String) : String :=
  if name.isEmpty then e.spell t
  else e.before false depthLimit t ++ name ++ e.after false depthLimit t

end Entities

end NativeBindings.Header
