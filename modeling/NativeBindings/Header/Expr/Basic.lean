import NativeBindings.Header.Spelling
import NativeBindings.Header.Layout
import NativeBindings.Header.Literal
import NativeBindings.Header.Floating

/-!
# Expressions and their values

`Expr` is an expression of a declaration as the reader keeps it, and `Value` what one folds
to: an integer `Constant` of a builtin type, or a floating value. The operators on values
follow C on the target: operands are promoted to at least `int`, the usual arithmetic
conversions pick a common type, and results wrap to the width of their type.
-/

namespace NativeBindings.Header

/-- An expression. -/
inductive Expr where
  /-- An integer literal: its value, its type and its spelling. -/
  | integer (value : Nat) (type : Builtin) (text : String)
  /-- A floating literal: its value, already rounded to its type, and its type. -/
  | floating (value : FloatValue) (type : Builtin)
  /-- An imaginary literal: its text as the front end prints it, the real literal with an `i`
after it, and the type of its parts. -/
  | imaginary (text : String) (part : Builtin)
  /-- A character literal: its value, its kind and its type. -/
  | character (value : Int) (kind : CharKind) (type : Builtin)
  /-- String literals run together: their kind and code units, without the final zero. -/
  | string (kind : CharKind) (units : List Nat)
  | enumerator (name : String) (value : Int) (type : Ty)
  /-- A variable or a function. -/
  | variable (name : String) (type : Ty)
  /-- A name that names nothing; it has been reported. -/
  | undeclared (name : String)
  | paren (e : Expr)
  /-- A prefix operator: `-`, `+`, `~`, `!`, `*`, `&`, `++`, `--`, and the GNU `__real`,
  `__imag` and `__extension__`. -/
  | unary (op : String) (e : Expr)
  /-- A suffix operator, `++` or `--`, with its place. -/
  | postUnary (op : String) (e : Expr) (pos : Position)
  /-- A binary operator with its place. -/
  | binary (op : String) (a b : Expr) (pos : Position)
  /-- An assignment operator with its place. -/
  | assign (op : String) (a b : Expr) (pos : Position)
  | conditional (c a b : Expr)
  /-- The GNU conditional without a middle operand, `c ?: b`: `c` when it is true. -/
  | omittedConditional (c b : Expr)
  /-- `__builtin_choose_expr`: the condition, both choices, and whether the first is taken. -/
  | choose (c a b : Expr) (first : Bool)
  /-- A generic selection: the controlling expression, the associations (`none` for
  `default`), and the one selected. -/
  | generic (control : Expr) (assocs : List (Option Ty × Expr)) (chosen : Option Nat)
  | cast (type : Ty) (e : Expr)
  | sizeofType (type : Ty)
  | sizeofExpr (e : Expr)
  /-- An alignment of a type, with the keyword it is printed with. -/
  | alignofType (keyword : String) (type : Ty)
  | alignofExpr (keyword : String) (e : Expr)
  /-- A member access; `type` is the member's type, `pos` the place of its name. -/
  | member (e : Expr) (name : String) (arrow : Bool) (type : Ty) (pos : Position)
  | index (a b : Expr)
  /-- A call, with the place where it starts. -/
  | call (f : Expr) (args : List Expr) (pos : Position)
  /-- A query of the place it is written at, `__builtin_LINE()` and its kin, with the value it
  gives: an integer literal, or a string literal for a file or function name. -/
  | sourceLocation (name : String) (value : Expr)
  /-- The comma operator with its place. -/
  | comma (a b : Expr) (pos : Position)
  /-- A compound literal: its type and its braced initializer. -/
  | compoundLiteral (type : Ty) (init : Expr)
  /-- A braced initializer list. -/
  | initList (items : List Expr)
  /-- An initializer with designators, which are kept as printed: `.a`, `[2]`, or the GNU
  `a:`; `index` is the element that a first array designator names, the last of a range. -/
  | designated (designators : String) (index : Option Nat) (value : Expr)
  /-- `__builtin_offsetof`: the type, the member designator as printed, and the offset when it
  is known. -/
  | offsetof (type : Ty) (path : String) (value : Option Nat)
  | typesCompatible (a b : Ty) (value : Bool)
  /-- What is left of an operation whose operands do not fit it, once that has been reported:
  its operands. It has no type or value of its own. -/
  | recovery (parts : List Expr)
  | invalid
deriving Inhabited, Repr

/-- An expression without the parentheses around it, and how many there were. -/
def withoutParens : Nat → Expr → Expr × Nat
  | 0, e => (e, 0)
  | fuel + 1, e =>
    match e with
    | .paren a =>
      let (inner, k) := withoutParens fuel a
      (inner, k + 1)
    | _ => (e, 0)

/-- An integer constant: its value, already within the range of its type, and its type. -/
structure Constant where
  value : Int
  type : Builtin
deriving Inhabited, Repr

namespace Constant

/-- Brings a value into the range of an integer type, on a target with the model `tm`. -/
def wrap (tm : TypeModel) (v : Int) (b : Builtin) : Constant :=
  let n := b.bitsIn tm
  let m : Int := v % (Nat.pow 2 n : Nat)
  if b == .bool then ⟨if v == 0 then 0 else 1, b⟩
  else if b.isUnsignedIn tm then ⟨m, b⟩
  else if m ≥ ((Nat.pow 2 (n - 1) : Nat) : Int) then ⟨m - (Nat.pow 2 n : Nat), b⟩ else ⟨m, b⟩

/-- Whether a value fits an integer type. -/
def fits (tm : TypeModel) (v : Int) (b : Builtin) : Bool := (wrap tm v b).value == v

end Constant

/-- The promoted type of an integer type: types narrower than `int` become `int`. -/
def promote (b : Builtin) : Builtin := if b.rank < Builtin.int.rank then .int else b

/-- The common type of two promoted integer types. -/
def commonInteger (tm : TypeModel) (a b : Builtin) : Builtin :=
  let a := promote a
  let b := promote b
  if a == b then a
  else if a.isUnsignedIn tm == b.isUnsignedIn tm then (if a.rank ≥ b.rank then a else b)
  else
    let (u, s) := if a.isUnsignedIn tm then (a, b) else (b, a)
    if u.rank ≥ s.rank then u
    else if s.sizeIn tm > u.sizeIn tm then s
    else s.toUnsigned

/-- The common type of two arithmetic types. -/
def commonArithmetic (tm : TypeModel) (a b : Builtin) : Builtin :=
  if a.isFloating || b.isFloating then
    let order : Builtin → Nat := fun
      | .float128 => 6 | .longDouble => 5 | .double => 4 | .float => 3 | .float16 => 2
      | .half => 1 | .bfloat16 => 1 | _ => 0
    if order a ≥ order b then a else b
  else commonInteger tm a b

/-- The type of an integer literal with a value and suffix: the first type of its list that
holds the value. A `size_t` suffix starts the list at `long`, the size of `size_t`. -/
def literalType (tm : TypeModel) (value : Nat) (decimal : Bool) (sfx : IntSuffix) : Builtin :=
  let fitsIn (b : Builtin) : Bool := Constant.fits tm value b
  let signedList : List Builtin := match (if sfx.sizeT then 1 else sfx.longs) with
    | 0 => [.int, .long, .longLong]
    | 1 => [.long, .longLong]
    | _ => [.longLong]
  let candidates : List Builtin :=
    if sfx.unsigned then signedList.map Builtin.toUnsigned
    else if decimal then signedList
    else signedList.flatMap fun b => [b, b.toUnsigned]
  (candidates.find? fitsIn).getD .unsignedLongLong

/-- The binary format of a floating type. -/
def Builtin.binaryFormat : Builtin → BinaryFormat
  | .half | .float16 => .half
  | .bfloat16 => .brain
  | .float => .single
  | .longDouble => .extended
  | .float128 => .quad
  | _ => .double

/-- The value of a constant expression: an integer constant, or a floating value of a floating
type. -/
inductive Value where
  | integer (c : Constant)
  | floating (v : FloatValue) (type : Builtin)
deriving Inhabited, Repr

namespace Value

/-- The type of a value. -/
def type : Value → Builtin
  | .integer c => c.type
  | .floating _ t => t

/-- Whether a value counts as true: whether it differs from zero. -/
def truth : Value → Bool
  | .integer c => c.value != 0
  | .floating v _ => !v.isZero

/-- An integer that stands for a truth value. -/
def ofTruth (b : Bool) : Value := .integer ⟨if b then 1 else 0, .int⟩

/-- A value converted to an arithmetic type: an integer wraps, a floating value is rounded to
a floating type and truncated toward zero for an integer type; one out of the integer type's
range becomes its nearest end, and a value that is not a number becomes `0`. Any value that is
not zero becomes `1` in `_Bool`. -/
def convert (tm : TypeModel) (b : Builtin) (v : Value) : Option Value :=
  if b == .bool then some (.integer ⟨if v.truth then 1 else 0, .bool⟩)
  else
    match v with
    | .integer c =>
      if b.isFloating then some (.floating (b.binaryFormat.ofInt c.value) b)
      else some (.integer (Constant.wrap tm c.value b))
    | .floating f _ =>
      if b.isFloating then some (.floating (f.convert b.binaryFormat) b)
      else
        let w := b.bitsIn tm
        let unsigned := b.isUnsignedIn tm
        let lowest : Int := if unsigned then 0 else -((Nat.pow 2 (w - 1) : Nat) : Int)
        let highest : Int := if unsigned then (Nat.pow 2 w : Nat) - 1 else (Nat.pow 2 (w - 1) : Nat) - 1
        let n : Int := match f with
          | .nan => 0
          | .infinite neg => if neg then lowest else highest
          | _ => (f.truncate?.getD 0)
        some (.integer ⟨max lowest (min highest n), b⟩)

/-- The floating value of a value converted to a floating type. -/
def asFloat (tm : TypeModel) (b : Builtin) (v : Value) : FloatValue :=
  match v.convert tm b with
  | some (.floating f _) => f
  | _ => .nan

end Value

/-- Applies a binary operator to two integer constants; `none` on division by zero. A shift
by a negative amount shifts the other way, and a shift by the width or more shifts by one
less than the width, as the front end folds them. -/
def applyConstant (tm : TypeModel) (op : String) (a b : Constant) : Option Constant :=
  let wrap := Constant.wrap tm
  if op == "<<" || op == ">>" then
    let t := promote a.type
    let x := (wrap a.value t).value
    let left := (op == "<<") != (b.value < 0)
    let s := min b.value.natAbs (t.bitsIn tm - 1)
    if left then some (wrap (x * Int.pow 2 s) t)
    else some (wrap (if x < 0 then -((-x - 1) / Int.pow 2 s) - 1 else x / Int.pow 2 s) t)
  else
    let t := commonInteger tm a.type b.type
    let x := (wrap a.value t).value
    let y := (wrap b.value t).value
    let bits (v : Int) : Nat := (v % (Nat.pow 2 128 : Nat)).toNat
    let truth (c : Bool) : Constant := ⟨if c then 1 else 0, .int⟩
    match op with
    | "+" => some (wrap (x + y) t)
    | "-" => some (wrap (x - y) t)
    | "*" => some (wrap (x * y) t)
    | "/" => if y == 0 then none else some (wrap (x.tdiv y) t)
    | "%" => if y == 0 then none else some (wrap (x.tmod y) t)
    | "<" => some (truth (x < y))
    | ">" => some (truth (x > y))
    | "<=" => some (truth (x ≤ y))
    | ">=" => some (truth (x ≥ y))
    | "==" => some (truth (x == y))
    | "!=" => some (truth (x != y))
    | "&" => some (wrap (Int.ofNat (bits x &&& bits y)) t)
    | "|" => some (wrap (Int.ofNat (bits x ||| bits y)) t)
    | "^" => some (wrap (Int.ofNat (bits x ^^^ bits y)) t)
    | _ => none

/-- Applies a binary operator to two values. When one is floating both are converted to the
common floating type; only arithmetic and comparisons apply to floating values, and a
comparison with a value that is not a number is false but for `!=`. -/
def applyValue (tm : TypeModel) (op : String) : Value → Value → Option Value
  | .integer a, .integer b => (applyConstant tm op a b).map .integer
  | a, b =>
    let t := commonArithmetic tm a.type b.type
    let x := a.asFloat tm t
    let y := b.asFloat tm t
    let compared (p : Ordering → Bool) : Option Value :=
      some (Value.ofTruth (match FloatValue.compare? x y with
        | some o => p o
        | none => op == "!="))
    match op with
    | "+" | "-" | "*" | "/" => (FloatValue.arithmetic t.binaryFormat op x y).map (.floating · t)
    | "<" => compared (· == .lt)
    | ">" => compared (· == .gt)
    | "<=" => compared (· != .gt)
    | ">=" => compared (· != .lt)
    | "==" => compared (· == .eq)
    | "!=" => compared (· != .eq)
    | _ => none

/-- Applies a prefix operator to a value: `+` and `-` promote an integer, `~` applies to
integers only, and `!` gives whether the value is zero. -/
def applyUnary (tm : TypeModel) (op : String) : Value → Option Value
  | .integer c =>
    let b := promote c.type
    if op == "+" then some (.integer (Constant.wrap tm c.value b))
    else if op == "-" then some (.integer (Constant.wrap tm (-c.value) b))
    else if op == "~" then some (.integer (Constant.wrap tm (-c.value - 1) b))
    else if op == "!" then some (Value.ofTruth (c.value == 0))
    else none
  | .floating v t =>
    if op == "+" then some (.floating v t)
    else if op == "-" then some (.floating v.negate t)
    else if op == "!" then some (Value.ofTruth v.isZero)
    else none

/-- The bits of a value of `width` bits, lowest first. -/
def bitsOf (width : Nat) (v : Nat) : List Bool :=
  (List.range width).map fun i => (v / Nat.pow 2 i) % 2 == 1

/-- The bytes of a value of `bytes` bytes in the other order. -/
def swapBytes (bytes : Nat) (v : Nat) : Nat :=
  (List.range bytes).foldl (fun acc i => acc * 256 + (v / Nat.pow 256 i) % 256) 0
/-- The element type of the string literals of a kind, on a target with the model `tm`. -/
def CharKind.elementTypeIn (tm : TypeModel) : CharKind → Builtin
  | .plain | .utf8 => .char
  | .wide => tm.wcharType
  | .utf16 => .unsignedShort
  | .utf32 => .unsignedInt

/-- The prefix of a literal of a kind. -/
def CharKind.literalPrefix : CharKind → String
  | .plain => ""
  | .wide => "L"
  | .utf8 => "u8"
  | .utf16 => "u"
  | .utf32 => "U"

namespace Entities

/-- The builtin type of a type, if it is an arithmetic type; an enum counts as its integer
type. -/
def arithmetic? (e : Entities) (t : Ty) : Option Builtin :=
  match e.bare t with
  | .builtin _ b => if b == .void then none else some b
  | .tag _ i => if (e.tag i).kind == .enum then some (e.enumBuiltin i) else none
  | .bitInt _ u _ => some (if u then .unsignedLong else .long)
  | _ => none
end Entities

/-- The character of a string literal at an index: the final zero just past its units, and
nothing beyond. -/
def stringElement (tm : TypeModel) (kind : CharKind) (units : List Nat) (i : Int) : Option Value :=
  if i < 0 || i > units.length then none
  else some (.integer (Constant.wrap tm (units.getD i.toNat 0) (kind.elementTypeIn tm)))

end NativeBindings.Header
