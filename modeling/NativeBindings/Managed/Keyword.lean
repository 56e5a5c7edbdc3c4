/-!
# C# keywords and identifier escaping

A C name that is a C# keyword (`params`, `object`, `string`, …) cannot be used as it is in C#
source; prefixed with `@` it becomes a verbatim identifier that names the same thing. `escape`
adds the prefix to keywords and leaves every other name alone.
-/

namespace NativeBindings.Managed

/-- The reserved words of C#. -/
def keywords : List String :=
  ["abstract", "as", "base", "bool", "break", "byte", "case", "catch", "char", "checked",
   "class", "const", "continue", "decimal", "default", "delegate", "do", "double", "else",
   "enum", "event", "explicit", "extern", "false", "finally", "fixed", "float", "for",
   "foreach", "goto", "if", "implicit", "in", "int", "interface", "internal", "is", "lock",
   "long", "namespace", "new", "null", "object", "operator", "out", "override", "params",
   "private", "protected", "public", "readonly", "ref", "return", "sbyte", "sealed", "short",
   "sizeof", "stackalloc", "static", "string", "struct", "switch", "this", "throw", "true",
   "try", "typeof", "uint", "ulong", "unchecked", "unsafe", "ushort", "using", "virtual",
   "void", "volatile", "while"]

/-- Whether a name is a C# keyword. -/
def isKeyword (name : String) : Bool := keywords.contains name

/-- The C# spelling of a C name: keywords get the verbatim prefix `@`. -/
def escape (name : String) : String :=
  if isKeyword name then "@" ++ name else name

@[simp] theorem escape_of_isKeyword {name : String} (h : isKeyword name = true) :
    escape name = "@" ++ name := by
  simp [escape, h]

@[simp] theorem escape_of_not_isKeyword {name : String} (h : isKeyword name = false) :
    escape name = name := by
  simp [escape, h]

end NativeBindings.Managed
