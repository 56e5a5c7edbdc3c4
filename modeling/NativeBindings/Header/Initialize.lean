import NativeBindings.Header.Compatible
import NativeBindings.Header.Expr

/-!
# Initializers

A variable initialized with an expression takes the expression's value as simple assignment
converts it. Arithmetic values convert to one another; a pointer takes a pointer to a
compatible type, with at least the qualifiers of the one it is given, or a pointer from or to
`void`, or a null pointer constant; `_Bool` takes a pointer too; a record takes only a value of
its own type. The other conversions are reported (`Conversion`), some as errors always and some
only as warnings that the options may make errors.

An object of static storage, as every variable at file scope is, must be initialized by a
constant: a value the front end folds, a string literal, or an address constant (the address
of such an object or of a function, moved by a constant). `Entities.nonConstant?` finds the part
of an initializer that is not one.
-/

namespace NativeBindings.Header

/-- How an initializer's value converts to the type of what it initializes. -/
inductive Conversion where
  | compatible
  | pointerToInteger
  | integerToPointer
  | incompatiblePointers
  | incompatibleFunctionPointers
  | discardsQualifiers
  | incompatible
deriving DecidableEq, Inhabited, Repr

/-- What a value is converted for: to initialize an object, to be assigned to one, or to be
passed to a parameter. Messages about the conversion name it. -/
inductive ConversionAction where
  | initializing
  | assigning
  | passing
deriving DecidableEq, Inhabited, Repr

namespace Conversion

/-- The kind of warning a conversion is reported as; none for one that is an error whatever
the options. Mixing integers and pointers, and pointers to incompatible functions, are errors
unless an option makes them less. -/
def warning? : Conversion → Option Warning
  | .pointerToInteger | .integerToPointer => some (.error "int-conversion")
  | .incompatibleFunctionPointers => some (.error "incompatible-function-pointer-types")
  | .incompatiblePointers => some (.extWarn "incompatible-pointer-types")
  | .discardsQualifiers => some (.extWarn "incompatible-pointer-types-discards-qualifiers")
  | .compatible | .incompatible => none

/-- Whether the conversion leaves the initializer unusable, so that nothing more is checked. -/
def fatal : Conversion → Bool
  | .incompatible => true
  | _ => false

/-- The message for a conversion from a quoted source type to a quoted target type, made for
`action`, with the fix that is suggested; none for a compatible one. -/
def message (c : Conversion) (action : ConversionAction) (target source hint : String) :
    Option String :=
  let types := match action with
    | .initializing => "initializing " ++ target ++ " with an expression of type " ++ source
    | .assigning => "assigning to " ++ target ++ " from " ++ source
    | .passing => "passing " ++ source ++ " to parameter of type " ++ target
  match c with
  | .compatible => none
  | .pointerToInteger => some ("incompatible pointer to integer conversion " ++ types ++ hint)
  | .integerToPointer => some ("incompatible integer to pointer conversion " ++ types ++ hint)
  | .incompatiblePointers => some ("incompatible pointer types " ++ types ++ hint)
  | .incompatibleFunctionPointers => some ("incompatible function pointer types " ++ types ++ hint)
  | .discardsQualifiers => some (types ++ " discards qualifiers")
  | .incompatible =>
    some (match action with
      | .initializing => "initializing " ++ target ++ " with an expression of incompatible type " ++ source
      | .assigning => "assigning to " ++ target ++ " from incompatible type " ++ source
      | .passing => "passing " ++ source ++ " to parameter of incompatible type " ++ target)

end Conversion

/-- Whether the qualifiers `outer` include all of `inner`. -/
def Quals.covers (outer inner : Quals) : Bool :=
  (!inner.const || outer.const) && (!inner.volatile || outer.volatile) &&
    (!inner.restrict || outer.restrict)

namespace Entities

/-- The type of an expression's value: arrays become pointers to their elements and functions
pointers to them, and the qualifiers at the top are dropped. -/
def valueType (e : Entities) (x : Expr) : Ty :=
  let t := e.bare (e.exprType x)
  match t with
  | .array _ el .. => .pointer {} el
  | .function .. => .pointer {} t
  | other => other.setQuals {}

/-- Whether an expression is a null pointer constant: an integer constant expression of value
zero, or one cast to `void *`. -/
def isNullPointer (e : Entities) : Nat → Expr → Bool
  | 0, _ => false
  | fuel + 1, x =>
    match x with
    | .paren a => e.isNullPointer fuel a
    | .cast t a =>
      let toVoidPointer : Bool := match e.bare t with
        | .pointer _ p => e.isVoid p
        | _ => false
      toVoidPointer && e.isNullPointer fuel a
    | _ =>
      match e.constantValue x with
      | some c => c.value == 0
      | none => false

/-- Whether an expression designates an object or function: a name, `*p`, `a[i]`, a member, a
string or compound literal. -/
def isLValue : Expr → Bool
  | .variable .. | .string .. | .compoundLiteral .. | .index .. | .member .. => true
  | .unary op _ => op == "*"
  | .paren a => isLValue a
  | _ => false

/-- The conversion of a value of type `source` to type `target`; `null` tells whether the value
is a null pointer constant. -/
def conversion (e : Entities) (target source : Ty) (null : Bool) : Conversion :=
  let t := e.canonical target
  let s := e.canonical source
  let arithmetic (x : Ty) : Bool := match x with
    | .builtin _ b => b != .void
    | .tag _ i => (e.tag i).kind == .enum
    | .complex .. | .bitInt .. => true
    | _ => false
  match t, s with
  | .pointer _ tp, .pointer _ sp =>
    let voidOnEither := e.isVoid tp || e.isVoid sp
    if !voidOnEither && !e.compatible depthLimit (tp.setQuals {}) (sp.setQuals {}) then
      match tp, sp with
      | .function .., .function .. => .incompatibleFunctionPointers
      | _, _ => .incompatiblePointers
    else if !tp.quals.covers sp.quals then .discardsQualifiers
    else .compatible
  | .pointer .., _ =>
    let integer : Bool := match s with
      | .builtin _ b => b.isInteger
      | .tag _ i => (e.tag i).kind == .enum
      | .bitInt .. => true
      | _ => false
    if null then .compatible
    else if integer then .integerToPointer
    else .incompatible
  | .builtin _ .bool, .pointer .. => .compatible
  | _, .pointer .. => if arithmetic t then .pointerToInteger else .incompatible
  | _, _ =>
    if arithmetic t && arithmetic s then .compatible
    else if e.compatible depthLimit (t.setQuals {}) (s.setQuals {}) then .compatible
    else
      match t, s with
      | .vector .., _ | _, .vector .. | .atomic .., _ | _, .atomic .. => .compatible
      | _, _ => .incompatible

/-- Whether the type `b` serves where type `a` is expected, as a fix suggested for a conversion
compares them: the same type but for `b` having more qualifiers, looking through one pointer on
both sides. -/
def fixFits (e : Entities) (a b : Ty) : Bool :=
  let a := e.canonical a
  let b := e.canonical b
  let (a, b) := match a, b with
    | .pointer _ x, .pointer _ y => (x, y)
    | _, _ => (a, b)
  b.quals.covers a.quals && a.setQuals {} == b.setQuals {}

/-- The fix suggested for a conversion of an expression of type `source` to type `target`:
dereferencing a pointer whose target fits, or taking the address of an object whose pointer
fits; a `*` or `&` already written is to be removed instead. -/
def conversionHint (e : Entities) (target source : Ty) (x : Expr) : String :=
  let s := e.canonical source
  let t := e.canonical target
  let inner := match x with
    | .paren a => a
    | a => a
  let dereference := match s with
    | .pointer _ p =>
      if e.fixFits p t && !e.isNullPointer depthLimit x then
        some (match inner with
          | .unary "&" _ => "; remove &"
          | _ => "; dereference with *")
      else none
    | _ => none
  match dereference with
  | some h => h
  | none =>
    match t with
    | .pointer _ tp =>
      let fromPointer : Bool := match s with
        | .pointer .. => true
        | _ => false
      let voidTarget := fromPointer && e.isVoid tp
      if !isLValue x || voidTarget then ""
      else if e.fixFits (.pointer {} s) t then
        match inner with
        | .unary "*" _ => "; remove *"
        | _ => "; take the address with &"
      else ""
    | _ => ""

/-- Whether converting a value of type `source` to type `target` changes only qualifiers: the
two are the same type, or pointers to the same type. Any other conversion is one more step that
the front end takes as a whole. -/
def keepsValue (e : Entities) (target source : Ty) : Bool :=
  match e.canonical target, e.canonical source with
  | .pointer _ a, .pointer _ b => a.setQuals {} == b.setQuals {}
  | a, b => a.setQuals {} == b.setQuals {}

/-- Whether a type is an integer type too narrow to hold an address: any but `_Bool` that is
smaller than a pointer. An address converted to it is not a constant. -/
def narrowsAddress (e : Entities) (t : Ty) : Bool :=
  match e.arithmetic? t with
  | some b => b.isInteger && b != .bool && b.sizeIn e.model < e.model.pointerSize
  | none => false

mutual

/-- Whether an expression is an address constant: the address of an object of static storage
or of a function, possibly moved by a constant or cast. -/
def isAddressConstant (e : Entities) : Nat → Expr → Bool
  | 0, _ => false
  | fuel + 1, x =>
    match x with
    | .paren a => e.isAddressConstant fuel a
    | .string .. => true
    | .variable _ t =>
      match e.bare t with
      | .array .. | .function .. => true
      | _ => false
    | .unary "&" a => e.isStaticObject fuel a
    | .cast t a => (e.constantValue a).isSome || (!e.narrowsAddress t && e.isAddressConstant fuel a)
    | .binary op a b _ =>
      (op == "+" || op == "-") &&
        ((e.isAddressConstant fuel a && (e.constantValue b).isSome) ||
          (op == "+" && (e.constantValue a).isSome && e.isAddressConstant fuel b))
    | .conditional c a b =>
      match e.foldedValue c with
      | some v => e.isAddressConstant fuel (if v.truth then a else b)
      | none => false
    | _ => false

/-- Whether an expression designates an object of static storage or a function: a variable, a
string or compound literal, an element or member of one, or what an address constant points
at. -/
def isStaticObject (e : Entities) : Nat → Expr → Bool
  | 0, _ => false
  | fuel + 1, x =>
    match x with
    | .paren a => e.isStaticObject fuel a
    | .variable .. | .string .. | .compoundLiteral .. => true
    | .index a i =>
      (e.isStaticObject fuel a || e.isAddressConstant fuel a) && (e.constantValue i).isSome
    | .member a _ arrow _ _ => if arrow then e.isAddressConstant fuel a else e.isStaticObject fuel a
    | .unary "*" a => e.isAddressConstant fuel a
    | _ => false

end

/-- Whether an expression folds to a complex value: an imaginary literal, or arithmetic on one
and on values that fold. -/
def complexConstant (e : Entities) : Nat → Expr → Bool
  | 0, _ => false
  | fuel + 1, x =>
    let part (a : Expr) : Bool := e.complexConstant fuel a || (e.foldedValue a).isSome
    match x with
    | .imaginary .. => true
    | .paren a | .unary "-" a | .unary "+" a | .unary "~" a => e.complexConstant fuel a
    | .cast _ a => e.complexConstant fuel a
    | .binary op a b _ =>
      ["+", "-", "*", "/"].contains op && part a && part b &&
        (e.complexConstant fuel a || e.complexConstant fuel b)
    | _ => false

/-- Whether an expression reads a `const` integer variable, which the front end may fold though
its value is not known here. -/
def readsConstant (e : Entities) : Expr → Bool
  | .variable _ t => (e.bare t).quals.const && (e.arithmetic? t).isSome
  | .paren a => e.readsConstant a
  | _ => false

end Entities

mutual

/-- The part of an initializer of an object of static storage that is not a constant, if
there is one: the initializer itself, or the first element of a list that is not. -/
def Entities.nonConstant? (e : Entities) : Nat → Expr → Option Expr
  | 0, _ => none
  | fuel + 1, x =>
    match x with
    | .paren a => e.nonConstant? fuel a
    | .string .. => none
    | .initList items => e.firstNonConstant? fuel items
    | .designated _ _ v => e.nonConstant? fuel v
    | .compoundLiteral _ i => e.nonConstant? fuel i
    | _ =>
      if (e.foldedValue x).isSome || e.isAddressConstant depthLimit x || e.readsConstant x ||
          e.complexConstant depthLimit x then none
      else some x

/-- The first element of a list that is not a constant. -/
def Entities.firstNonConstant? (e : Entities) : Nat → List Expr → Option Expr
  | 0, _ => none
  | _, [] => none
  | fuel + 1, x :: rest =>
    match e.nonConstant? fuel x with
    | some c => some c
    | none => e.firstNonConstant? fuel rest

end

/-- Where the front end places an expression in a message: at its operator for a binary or
suffix operator, at the member's name for a member access, at the array for a subscript, and
at its start otherwise. -/
def Expr.place (start : Position) : Nat → Expr → Position
  | 0, _ => start
  | fuel + 1, x =>
    match x with
    | .binary _ _ _ p | .assign _ _ _ p | .comma _ _ p | .postUnary _ _ p | .member _ _ _ _ p => p
    | .index a _ => Expr.place start fuel a
    | _ => start

end NativeBindings.Header
