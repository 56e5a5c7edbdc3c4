/-!
# Paths

An absolute path is the list of its components below the root directory. Resolving a path
text against a working directory joins it and removes `.` components and each `..` together
with the component before it (at the root, `..` stays at the root); there are no links, so
this is the whole of resolution.

`normalizeText` is the textual normal form of a relative or absolute path written by a user:
repeated and trailing separators and `.` components are dropped, `..` is kept, a path of no
components is `.`, and a leading `//` (exactly two separators) is kept as it is.
-/

namespace NativeBindings.Files

/-- An absolute path, by its components below the root. -/
structure Path where
  parts : List String := []
deriving DecidableEq, Inhabited, Repr

namespace Path

/-- The root directory. -/
def root : Path := {}

/-- The path as text, with a leading separator. -/
def render (p : Path) : String := "/" ++ "/".intercalate p.parts

/-- The directory that holds a path; the root is its own parent. -/
def parent (p : Path) : Path := ⟨p.parts.dropLast⟩

/-- The last component, empty for the root. -/
def fileName (p : Path) : String := p.parts.getLast?.getD ""

/-- The components of a path text, separators and `.` dropped. -/
def components (text : String) : List String :=
  ((text.toList.splitOn '/').map String.ofList).filter (fun c => !c.isEmpty && c != ".")

/-- Appends components one by one, `..` going up. -/
def appendParts (parts : List String) : List String → List String
  | [] => parts
  | c :: cs => if c == ".." then appendParts parts.dropLast cs else appendParts (parts ++ [c]) cs

/-- A path text resolved against a working directory. -/
def resolve (cwd : Path) (text : String) : Path :=
  let base := if text.startsWith "/" then [] else cwd.parts
  ⟨appendParts base (components text)⟩

/-- A component appended to a path, with no resolution. -/
def child (p : Path) (name : String) : Path := ⟨p.parts ++ [name]⟩

/-- Whether a path lies in or below a directory. -/
def isUnder (p dir : Path) : Bool := dir.parts.isPrefixOf p.parts

end Path

/-- The normal text of a path written by a user. -/
def normalizeText (text : String) : String :=
  let lead :=
    if text.startsWith "//" && !text.startsWith "///" then "//"
    else if text.startsWith "/" then "/"
    else ""
  let body := "/".intercalate (Path.components text)
  if lead.isEmpty && body.isEmpty then "." else lead ++ body

end NativeBindings.Files
