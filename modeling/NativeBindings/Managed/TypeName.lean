import NativeBindings.Text.Blank
import NativeBindings.Text.Erase
import NativeBindings.Managed.Keyword
import NativeBindings.Descriptor.Basic
import NativeBindings.Declaration.Aliases

/-!
# Naming C types in C#

`resolve mode strip t` is the C# type expression for the descriptor `t`, together with the
notices logged on the way. The rules, tried in this order:

* a primitive with a C# counterpart (`int`, `unsigned char`, …) is named by the table;
* an array is `ConstArrayOf<E>` or `ArrayOf<E>` for its element `E`;
* a pointer to a function with a parameter list is a delegate (`System.Action<…>` when it
  returns `void`, else `System.Func<…, R>`); a pointer whose target names `void` is
  `System.IntPtr`, any other is `Pointer<T>`;
* a `const` type, when `strip` holds, is named as its unqualified copy (a full resolution,
  so in alias mode the name is rewritten by the table once more);
* a record or typedef is its name with the tag keywords removed, escaped for C#;
* anything else keeps its spelling, and a notice says so.

Children are always resolved with `strip` set. In alias mode (the right-hand side of a
`using`) every name, at every level, goes through `Mode.post`: a known alias is replaced by its
actual type, a C# keyword type by its `System` name. A descriptor that lacks a child that the
walk needs is a `ResolveError`.
-/

namespace NativeBindings.Managed

/-- The C# type of each C primitive with a counterpart. -/
def primitiveTable : List (String × String) :=
  [("void", "void"), ("_Bool", "byte"), ("bool", "byte"), ("char", "byte"),
   ("unsigned char", "byte"), ("signed char", "sbyte"), ("short", "short"),
   ("unsigned short", "ushort"), ("int", "int"), ("unsigned int", "uint"), ("long", "long"),
   ("unsigned long", "ulong"), ("long long", "long"), ("unsigned long long", "ulong"),
   ("float", "float"), ("double", "double"), ("long double", "double")]

/-- The `System` type that each C# keyword type stands for. -/
def keywordTypeTable : List (String × String) :=
  [("bool", "System.Boolean"), ("byte", "System.Byte"), ("sbyte", "System.SByte"),
   ("short", "System.Int16"), ("ushort", "System.UInt16"), ("int", "System.Int32"),
   ("uint", "System.UInt32"), ("long", "System.Int64"), ("ulong", "System.UInt64"),
   ("float", "System.Single"), ("double", "System.Double")]

/-- The C# counterpart of a primitive spelling. -/
def primitiveName? (spelling : String) : Option String :=
  (primitiveTable.find? (fun e => e.1 == spelling)).map (·.2)

/-- A keyword type's `System` name; other names are unchanged. -/
def keywordType (name : String) : String :=
  match keywordTypeTable.find? (fun e => e.1 == name) with
  | some e => e.2
  | none => name

/-- A spelling without its tag keywords (`struct `, `union `, `enum `, erased in that order)
and without blanks at its ends. -/
def stripTagKeywords (spelling : String) : String :=
  Text.trim (Text.eraseWord "enum " (Text.eraseWord "union " (Text.eraseWord "struct " spelling)))

/-- Where a C# name is wanted: a field, parameter or return type (`plain`), or the right-hand
side of a `using` alias, which must not mention aliases or keyword types. -/
inductive Mode where
  | plain
  | aliases (table : AliasTable)
deriving Inhabited

/-- The rewriting that a mode applies to every name it produces. -/
def Mode.post : Mode → String → String
  | .plain, n => n
  | .aliases table, n =>
    match table.lookup n with
    | some actual => actual
    | none => keywordType n

/-- A descriptor lacks a child that naming it needs. -/
inductive ResolveError where
  /-- A pointer without its pointee. -/
  | missingPointee
  /-- An array without its element, or a callback without its result. -/
  | missingChild
deriving DecidableEq, Repr

/-- The text of a resolution failure. -/
def ResolveError.message : ResolveError → String
  | .missingPointee => "'NoneType' object has no attribute 'is_function'"
  | .missingChild => "'NoneType' object has no attribute 'category'"

/-- A C# name and the notices logged while finding it, in order. -/
structure Named where
  notices : List String
  text : String
deriving Inhabited, Repr, DecidableEq

/-- The notice for a type that C# has no name for. -/
def fallbackNotice (t : CType) : String :=
  "No C# mapping for " ++ t.category.name ++ " type '" ++ t.render ++ "', using its spelling"

/-- The name of a type that no rule before the last two applies to: a record or typedef by
its escaped name, anything else by its spelling, with a notice. -/
def leafName (t : CType) : Named :=
  if t.category.isNamed then
    let n := escape (stripTagKeywords t.spelling)
    ⟨[], if t.isConst then "const " ++ n else n⟩
  else ⟨[fallbackNotice t], stripTagKeywords t.render⟩

/-- The delegate type for a callback returning `returns` with parameters `params`. -/
def delegateName (returns : String) (params : List String) : String :=
  if returns == "void" then
    match params with
    | [] => "System.Action"
    | _ => "System.Action<" ++ ", ".intercalate params ++ ">"
  else "System.Func<" ++ ", ".intercalate (params ++ [returns]) ++ ">"

/-- The name for a pointer's target: `System.IntPtr` for `void`, else `Pointer<T>`. -/
def pointerName (target : String) : String :=
  if target == "void" then "System.IntPtr" else "Pointer<" ++ target ++ ">"

mutual

/-- The C# name of a descriptor, rewritten by the mode. -/
def resolve (mode : Mode) (strip : Bool) : CType → Except ResolveError Named
  | ⟨cat, sp, c, el, sz, pt, rs, args⟩ => do
    let r ← structural mode strip ⟨cat, sp, c, el, sz, pt, rs, args⟩
    pure ⟨r.notices, mode.post r.text⟩

/-- The C# name of a descriptor before the mode's final rewriting. -/
def structural (mode : Mode) (strip : Bool) : CType → Except ResolveError Named
  | ⟨cat, sp, c, el, sz, pt, rs, args⟩ =>
    let t : CType := ⟨cat, sp, c, el, sz, pt, rs, args⟩
    let rest : Named :=
      if c && strip then
        let u := leafName t.unqualified
        ⟨u.notices, mode.post u.text⟩
      else leafName t
    match cat with
    | .primitive =>
      match primitiveName? sp with
      | some m => pure ⟨[], m⟩
      | none => pure rest
    | .constantArray => do
      let e ← child mode el
      pure ⟨e.notices, "ConstArrayOf<" ++ e.text ++ ">"⟩
    | .incompleteArray => do
      let e ← child mode el
      pure ⟨e.notices, "ArrayOf<" ++ e.text ++ ">"⟩
    | .pointer => target mode pt
    | _ => pure rest

/-- The name of a child that must be present. -/
def child (mode : Mode) : Option CType → Except ResolveError Named
  | none => .error .missingChild
  | some t => resolve mode true t

/-- The name of a pointer with the given pointee. -/
def target (mode : Mode) : Option CType → Except ResolveError Named
  | none => .error .missingPointee
  | some p =>
    if p.isFunction then callback mode p
    else do
      let r ← resolve mode true p
      pure ⟨r.notices, pointerName r.text⟩

/-- The delegate type for a pointed-to function: its result first, then its parameters. -/
def callback (mode : Mode) : CType → Except ResolveError Named
  | ⟨_, _, _, _, _, _, rs, args⟩ => do
    let r ← child mode rs
    let ps ← parameters mode args
    pure ⟨r.notices ++ ps.1, delegateName r.text ps.2⟩

/-- The names of a parameter list, with their notices in order. -/
def parameters (mode : Mode) : Option (List CType) → Except ResolveError (List String × List String)
  | none => pure ([], [])
  | some ts => parameterNames mode ts

/-- The names of a list of types, with their notices in order. -/
def parameterNames (mode : Mode) : List CType → Except ResolveError (List String × List String)
  | [] => pure ([], [])
  | t :: ts => do
    let r ← resolve mode true t
    let rs ← parameterNames mode ts
    pure (r.notices ++ rs.1, r.text :: rs.2)

end

end NativeBindings.Managed
