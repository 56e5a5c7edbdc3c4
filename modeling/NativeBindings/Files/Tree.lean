import NativeBindings.Files.Path

/-!
# A tree of files

The files that a run can see: the text of each file by its absolute path. Directories are not
stored; a path is a directory when a file lies below it or when it is the working directory or
one of its ancestors. Reading text turns every carriage return, alone or before a line feed,
into a line feed.
-/

namespace NativeBindings.Files

/-- Why a file could not be read or written. -/
inductive FileError where
  | notFound
  | isDirectory
  | notADirectory
deriving DecidableEq, Repr, Inhabited

/-- The name of a file error's kind. -/
def FileError.name : FileError → String
  | .notFound => "FileNotFoundError"
  | .isDirectory => "IsADirectoryError"
  | .notADirectory => "NotADirectoryError"

/-- Files by absolute path, and the working directory. -/
structure Tree where
  files : List (Path × String) := []
  cwd : Path := Path.root
deriving Inhabited, Repr

namespace Tree

/-- The contents of a file. -/
def contents? (t : Tree) (p : Path) : Option String :=
  (t.files.reverse.find? (fun f => f.1 == p)).map (·.2)

/-- Whether a path is a file. -/
def isFile (t : Tree) (p : Path) : Bool := t.files.any (fun f => f.1 == p)

/-- Whether a path is a directory. -/
def isDir (t : Tree) (p : Path) : Bool :=
  p.parts.isPrefixOf t.cwd.parts ||
    t.files.any (fun f => p.parts.isPrefixOf f.1.parts && p.parts.length < f.1.parts.length)

/-- Whether a path exists. -/
def pathExists (t : Tree) (p : Path) : Bool := t.isFile p || t.isDir p

/-- A path text resolved against the working directory. -/
def resolve (t : Tree) (text : String) : Path := Path.resolve t.cwd text

/-- A path text resolved as the system resolves it when it opens a file: each component is
looked up in the directory that the components before it name, which must exist, so that
`sub/../x` needs a directory `sub`. A component looked up in a file fails as not a directory. A
slash at the end is dropped, as a path value drops it. -/
def locate (t : Tree) (text : String) : Except FileError Path :=
  let base : Path := if text.startsWith "/" then Path.root else t.cwd
  let step (acc : Except FileError Path) (c : String) : Except FileError Path := do
    let p ← acc
    if t.isFile p then .error .notADirectory
    else if !t.isDir p then .error .notFound
    else if c == "." then pure p
    else if c == ".." then pure p.parent
    else pure (p.child c)
  ((text.splitOn "/").filter (!·.isEmpty)).foldl step (.ok base)

/-- The path a text names when it resolves (see `locate`). -/
def resolveExisting? (t : Tree) (text : String) : Option Path := (t.locate text).toOption

/-- Whether a path text names an existing file or directory when the system looks it up as it
stands: a text that ends in a slash must name a directory. -/
def namesExisting (t : Tree) (text : String) : Bool :=
  match t.resolveExisting? text with
  | none => false
  | some p => !text.isEmpty && t.pathExists p && !(text.endsWith "/" && t.isFile p)

/-- Line ends as a reader of text sees them: `\r\n` and `\r` become `\n`. -/
def universalNewlines : List Char → List Char
  | '\r' :: '\n' :: cs => '\n' :: universalNewlines cs
  | '\r' :: cs => '\n' :: universalNewlines cs
  | c :: cs => c :: universalNewlines cs
  | [] => []

/-- The raw contents of a file. -/
def readBytes (t : Tree) (p : Path) : Except FileError String :=
  match t.contents? p with
  | some s => .ok s
  | none => if t.isDir p then .error .isDirectory else .error .notFound

/-- A path whose raw contents can be read is a file of the tree. -/
theorem mem_files_of_readBytes {t : Tree} {p : Path} {s : String} (h : t.readBytes p = .ok s) :
    p ∈ t.files.map Prod.fst := by
  unfold readBytes at h
  split at h
  · rename_i contents hc
    unfold contents? at hc
    obtain ⟨f, hf, rfl⟩ := Option.map_eq_some_iff.1 hc
    have hpath : f.1 = p := by simpa using List.find?_some hf
    exact List.mem_map.2 ⟨f, List.mem_reverse.1 (List.mem_of_find?_eq_some hf), hpath⟩
  · split at h <;> cases h

/-- The text of a file, line ends translated. -/
def readText (t : Tree) (p : Path) : Except FileError String :=
  (t.readBytes p).map fun s => String.ofList (universalNewlines s.toList)

/-- Writes a file; its directory must exist. -/
def write (t : Tree) (p : Path) (text : String) : Except FileError Tree :=
  if t.isDir p then .error .isDirectory
  else if !t.isDir p.parent then .error .notFound
  else .ok { t with files := (t.files.filter (fun f => f.1 != p)) ++ [(p, text)] }

end Tree

end NativeBindings.Files
