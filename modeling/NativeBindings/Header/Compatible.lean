import NativeBindings.Header.Layout

/-!
# Compatible types

Two declarations of one function or variable must give it compatible types. Compatibility is
looser than sameness: an enum is compatible with its integer type, an array of unknown size
with one of a known size, and a function type without a prototype with one that has a
prototype whose parameters are not changed by the promotions of a call without a prototype:
no `_Bool`, character, `short` or `float` parameter, and no `...`. Pointers, arrays and
functions are compatible when the types they are built from are, qualifiers being the same;
the qualifiers of a parameter itself do not count.

The types compared here are canonical: without typedef names or other sugar.
-/

namespace NativeBindings.Header

namespace Entities

/-- Whether the integer type of a parameter changes in a call to a function without a
prototype: `_Bool`, the character types and the short ones are promoted to `int`, and `float`
to `double`. An enum counts as its integer type. -/
def promotedInCall (e : Entities) (t : Ty) : Bool :=
  match t with
  | .builtin _ b => (b.isInteger && b.rank < Builtin.int.rank) || b == .float
  | .tag _ i => (e.tag i).kind == .enum && (e.enumBuiltin i).rank < Builtin.int.rank
  | _ => false

/-- The type a parameter takes in a call to a function without a prototype: the integer types
that `promotedInCall` names become `int`, and `float` becomes `double`. -/
def promotedForCall (e : Entities) (t : Ty) : Ty :=
  match e.canonical t with
  | .builtin _ .float => .builtin {} .double
  | c => if e.promotedInCall c then .builtin {} .int else t

/-- Whether two array sizes agree: two known sizes are equal, and an unknown size agrees with
any. -/
def sizesAgree : ArraySize → ArraySize → Bool
  | .constant m, .constant n => m == n
  | _, _ => true

/-- Whether two canonical types are compatible. -/
def compatible (e : Entities) : Nat → Ty → Ty → Bool
  | 0, _, _ => true
  | fuel + 1, a, b =>
    let enumOf (i : Nat) (x : Builtin) : Bool :=
      (e.tag i).kind == .enum && e.enumBuiltin i == x
    if a.quals != b.quals then false
    else
      match a, b with
      | .builtin _ x, .builtin _ y => x == y
      | .tag _ i, .tag _ j => i == j
      | .tag _ i, .builtin _ y => enumOf i y
      | .builtin _ x, .tag _ j => enumOf j x
      | .pointer _ p, .pointer _ q => e.compatible fuel p q
      | .array _ x sx _ _, .array _ y sy _ _ => e.compatible fuel x y && sizesAgree sx sy
      | .function r1 p1 v1 pr1, .function r2 p2 v2 pr2 =>
        e.compatible fuel r1 r2 &&
          (if pr1 && pr2 then
            p1.length == p2.length && v1 == v2 &&
              (p1.zip p2).all fun (x, y) => e.compatible fuel (x.setQuals {}) (y.setQuals {})
          else if pr1 then !v1 && !p1.any (e.promotedInCall ·)
          else if pr2 then !v2 && !p2.any (e.promotedInCall ·)
          else true)
      | x, y => x == y

/-- Whether two types are compatible. -/
def compatibleTypes (e : Entities) (a b : Ty) : Bool :=
  e.compatible depthLimit (e.canonical a) (e.canonical b)

end Entities

end NativeBindings.Header
