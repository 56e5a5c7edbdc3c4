import NativeBindings.Managed.Keyword
import NativeBindings.Declaration.Aliases
import NativeBindings.Declaration.Collector
import NativeBindings.Config.Basic

/-!
# The generated C# source

The bindings are one C# file, written line by line:

1. `using System;` and `using System.Runtime.InteropServices;`, one `using A = T;` per alias in
   table order, and an empty line;
2. each struct in collection order: its layout attribute (`Explicit` for a union, whose fields
   all sit at offset 0, else `Sequential`), `struct Name //line:L, column:C` and its fields in a
   braced block, then an empty line;
3. the class of extern functions: per function a comment with its location, the `[DllImport]`
   attribute when a library is configured, the extern declaration, and an empty line;
4. an empty line and the definitions of the generic wrapper types the type names refer to.

Inside a block every non-empty line is indented by one tab; empty lines carry no indentation.
The text is the lines joined by line feeds, with a final line feed.
-/

namespace NativeBindings.Managed

/-- The opening `using` directives. -/
def header : List String := ["using System;", "using System.Runtime.InteropServices;"]

/-- The wrapper types, written after the class, as one block of text. -/
def footer : String :=
  "\npublic struct Pointer<T>\n\x7b\n\tpublic IntPtr Handle;\n" ++
  "\tpublic static implicit operator IntPtr (Pointer<T> value) \x7b return value.Handle; \x7d\n" ++
  "\x7d\npublic struct ArrayOf<T> \x7b\x7d\npublic struct ConstArrayOf<T> \x7b\x7d\n"

/-- A line one block deeper; an empty line stays empty. -/
def indent (line : String) : String := if line.isEmpty then line else "\t" ++ line

/-- A braced block under a header line. -/
def block (headerLine : String) (body : List String) : List String :=
  [headerLine, "\x7b"] ++ body.map indent ++ ["\x7d"]

/-- The `using` line of one alias. -/
def aliasLine (key actual : String) : String :=
  "using " ++ escape key ++ " = " ++ actual ++ ";"

/-- The lines of one struct. -/
def structLines (s : Struct) : List String :=
  let layout := if s.isUnion then "Explicit" else "Sequential"
  let offset := if s.isUnion then "[FieldOffset (0)] " else ""
  ("[StructLayout (LayoutKind." ++ layout ++ ")]") ::
    block ("struct " ++ escape s.name ++ " //" ++ s.location.render)
      (s.fields.map fun f => offset ++ "public " ++ f.type ++ " " ++ escape f.name ++ ";")

/-- The parameter list of an extern declaration. -/
def parameterList (ps : List Variable) : String :=
  ", ".intercalate (ps.map fun p => p.type ++ " " ++ escape p.name)

/-- The lines of one extern function. -/
def functionLines (library : Option String) (f : Function) : List String :=
  ["// function " ++ f.name ++ " " ++ f.location.render] ++
  (match library with
   | some lib => ["[DllImport (\"" ++ lib ++ "\")]"]
   | none => []) ++
  ["internal static extern " ++ f.returns ++ " " ++ escape f.name ++ " (" ++
    parameterList f.parameters ++ ");"]

/-- The lines of the generated file. -/
def sourceLines (config : Config) (aliases : AliasTable) (decls : Collector) : List String :=
  header ++ aliases.entries.map (fun e => aliasLine e.1 e.2) ++ [""] ++
  (decls.structs.flatMap fun s => structLines s ++ [""]) ++
  block ("class " ++ config.className)
    (decls.functions.flatMap fun f => functionLines config.libraryName f ++ [""]) ++
  ["", footer]

/-- The generated C# file. -/
def source (config : Config) (aliases : AliasTable) (decls : Collector) : String :=
  "\n".intercalate (sourceLines config aliases decls) ++ "\n"

/-- The configuration members whose text the generated file holds: the class name always, and
the library name when there is a function to carry it. -/
def writtenMembers (config : Config) (decls : Collector) : List String :=
  "class_name" :: (if config.libraryName.isSome && !decls.functions.isEmpty then ["library_name"] else [])

end NativeBindings.Managed
