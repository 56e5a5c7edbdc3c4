import NativeBindings.Header.Decl
import NativeBindings.Files.Tree

/-!
# Units, as a front end reads them

A front end reads a header, with the compiler arguments of a run, as a unit (`Parsed`): the
tables of its types, its declarations numbered in the order they were made, the declarations of
its top level, its `#include` lines and its errors. A declaration holds others (`Parsed.inside`):
a record its members, a typedef or a function what its type shows inside it. `Parsed.topLevel`
lists what a unit holds at its top level in one file, declarations and `#include` lines, in the
order of their places.

`Frontend` is what the walk over headers asks of a front end: the unit a header is read as, or
nothing when it cannot be loaded. Each header is read the same way whenever it is read, and
only files of the tree are read. `Frontend.ofUnits` reads each file as a unit given in a table.
-/

namespace NativeBindings.Header

/-- An include directive met: the place of its `#` and the name of the file found. -/
structure Inclusion where
  pos : Position
  found : Option String
deriving Inhabited, Repr

/-- A unit as read (`Parsed`): the tables of its types, its declarations, its top level, its `#include`
lines, and its errors. -/
structure Parsed where
  entities : Entities
  decls : Array Decl
  top : List Nat
  inclusions : List Inclusion
  /-- The errors, as `FILE:LINE:COL: message` lines, in the order they were found. -/
  errors : List String
deriving Inhabited

namespace Parsed

/-- The declaration with a number. -/
def decl (u : Parsed) (i : Nat) : Decl := u.decls.getD i default

/-- The declaration that a tag use shows: the tag's definition, when the use is it. A use is
the definition when the tag has been defined and either has no name or is named at this very
token. -/
def useShows (u : Parsed) (t : TagUse) : Option Nat :=
  let d := u.entities.tag t.tag
  if !d.complete then none
  else
    match d.definition with
    | none => none
    | some di =>
      match u.decl di with
      | .tag _ _ nameTok _ _ =>
        if d.name.isNone || (t.nameToken.isSome && nameTok == t.nameToken) then some di else none
      | _ => none

/-- The declarations shown inside a declaration, in order. -/
def inside (u : Parsed) (d : Decl) : List Nat :=
  let ofInner (i : Inner) : List Nat :=
    (match i.use with
     | some t => (u.useShows t).toList
     | none => []) ++ i.params
  match d with
  | .tag _ _ _ _ ms | .scope _ ms => ms
  | .field .. => []
  | .typedef _ _ i | .function _ _ _ _ i | .param _ _ _ i | .variable _ _ _ i => ofInner i

/-- What stands at the top level of a unit: a declaration, or an `#include` line. -/
inductive Item where
  | decl (id : Nat)
  | inclusion (inc : Inclusion)
deriving Inhabited

/-- The place of a top-level item. -/
def itemPos (u : Parsed) : Item → Position
  | .decl i => (u.decl i).pos
  | .inclusion inc => inc.pos

/-- Inserts an item into a list sorted by offset, after the items of the same offset. -/
def insertItem (u : Parsed) (x : Item) : List Item → List Item
  | [] => [x]
  | y :: ys => if (u.itemPos x).offset < (u.itemPos y).offset then x :: y :: ys else y :: insertItem u x ys

/-- The items of the unit's top level that stand in the file `file`: declarations first, then
`#include` lines, sorted by their offsets, those of one offset kept in that order. -/
def topLevel (u : Parsed) (file : String) : List Item :=
  let items := u.top.map Item.decl ++ u.inclusions.map Item.inclusion
  let here := items.filter fun x => (u.itemPos x).file == file
  here.foldl (fun acc x => insertItem u x acc) []

end Parsed

/-- A C front end: the unit it reads a header as, given the files and the compiler arguments of
a run, or nothing when the header cannot be loaded. -/
structure Frontend where
  read : Files.Tree → List String → Files.Path → Option Parsed
  /-- Only a file of the tree is read. -/
  mem_files : ∀ {tree : Files.Tree} {args : List String} {path : Files.Path} {u : Parsed},
    read tree args path = some u → path ∈ tree.files.map Prod.fst

/-- A front end over units read before: a file of the tree is read as the unit that the table
gives its path, whatever the arguments. -/
def Frontend.ofUnits (units : List (Files.Path × Parsed)) : Frontend where
  read tree _ path := if path ∈ tree.files.map Prod.fst then units.lookup path else none
  mem_files h := by
    split at h
    · assumption
    · cases h

end NativeBindings.Header
