import NativeBindings.Header.Entity

/-!
# Declarations of a unit

The declarations that reading a unit produces, numbered in the order they were made. They
form the tree that the binding generator walks: the unit holds its top-level declarations and
`#include` lines, a record, a C++ namespace or `extern "C"` block holds its members, and a
declaration written with a declarator holds what its type shows inside it (`Inner`): the
definition of a record that its specifiers hold, and the parameters of the functions in its
declarator.

A function declared with a typedef of a function type has parameters (`params`) that show
nowhere inside it; they have no names.
-/

namespace NativeBindings.Header

/-- The use of a record or enum in declaration specifiers: the tag, and the token of the name
written there. It stands for the tag's definition when it is that definition. -/
structure TagUse where
  tag : Nat
  nameToken : Option Nat
deriving Inhabited, Repr

/-- What a declaration shows inside it: the tag its specifiers name, and the parameter
declarations of its functions, innermost function first. -/
structure Inner where
  use : Option TagUse := none
  params : List Nat := []
deriving Inhabited, Repr

/-- A declaration. -/
inductive Decl where
  /-- A struct, union or enum declaration: the tag, its place, the token of its name, whether
  it is the tag's definition, and the declarations between its braces. -/
  | tag (tag : Nat) (pos : Position) (nameToken : Option Nat) (isDefinition : Bool)
      (members : List Nat)
  /-- A member of a record. -/
  | field (name : String) (pos : Position) (type : Ty)
  | typedef (typedef : Nat) (pos : Position) (inner : Inner)
  /-- A function: its type, its parameters, and what it shows inside it. -/
  | function (name : String) (pos : Position) (type : Ty) (params : List Nat) (inner : Inner)
  | param (name : String) (pos : Position) (type : Ty) (inner : Inner)
  | variable (name : String) (pos : Position) (type : Ty) (inner : Inner)
  /-- A C++ namespace or `extern "C"` block, with the declarations it holds. -/
  | scope (pos : Position) (members : List Nat)
deriving Inhabited, Repr

namespace Decl

/-- The place of a declaration. -/
def pos : Decl → Position
  | .tag _ p .. | .field _ p _ | .typedef _ p _ | .function _ p .. | .param _ p .. | .variable _ p ..
  | .scope p _ => p

/-- The name of a declaration with one. -/
def name : Decl → String
  | .field n .. | .function n .. | .param n .. | .variable n .. => n
  | _ => ""

/-- The type of a declaration with one. -/
def type : Decl → Ty
  | .field _ _ t | .function _ _ t .. | .param _ _ t _ | .variable _ _ t _ => t
  | _ => .invalid

end Decl

end NativeBindings.Header
