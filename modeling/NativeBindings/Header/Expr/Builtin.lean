import NativeBindings.Header.Expr.Basic
import NativeBindings.Header.BuiltinFunction

/-!
# Calls of builtin functions in constant expressions

The front end evaluates a call of a builtin function in a constant expression only if the
builtin is one that constant expressions may call (property `E` of the table) and only with
arguments it can evaluate: the builtins on bits and bytes of integers, the classification of
floating values, the comparisons and lengths of string literals, the infinities and
not-a-numbers, and a few more. `Entities.foldBuiltin` gives the value of such a call; a call that
it does not fold keeps the expression around it from being constant.

The arguments are converted to the parameter types first, as the call converts them, so that
`__builtin_ffs(1.0)` counts the bits of the `int` `1`.
-/

namespace NativeBindings.Header

/-- A pointer into a string literal: the literal's kind and code units, and the index of the
unit it points to. -/
structure StringPointer where
  kind : CharKind
  units : List Nat
  offset : Int
deriving Inhabited, Repr

namespace StringPointer

/-- The unit `k` places after the one pointed to: the final zero just past the units, and
nothing outside the literal. -/
def element (p : StringPointer) (k : Nat) : Option Nat :=
  let i := p.offset + k
  if i < 0 || i > p.units.length then none else some (p.units.getD i.toNat 0)

/-- The number of units before the first zero from the one pointed to; nothing if the pointer
is outside the literal. -/
def length? (p : StringPointer) : Option Nat :=
  if p.offset < 0 || p.offset > p.units.length then none
  else some ((p.units.drop p.offset.toNat).takeWhile (· != 0)).length

/-- Whether the units are bytes, of a plain or UTF-8 literal. -/
def isNarrow (p : StringPointer) : Bool := p.kind == .plain || p.kind == .utf8

end StringPointer

/-- Compares the units of two strings from the units pointed to, `count` of them at most: `-1`,
`0` or `1` as the first that differ compare, and `0` at a zero that both have when `untilZero`;
nothing when a read leaves a literal. -/
def compareUnits (a b : StringPointer) (untilZero : Bool) : Nat → Nat → Option Int
  | 0, _ => some 0
  | count + 1, k => do
    let x ← a.element k
    let y ← b.element k
    if x != y then some (if x < y then -1 else 1)
    else if untilZero && x == 0 then some 0
    else compareUnits a b untilZero count (k + 1)

/-- The string literal that a pointer expression points into, with the offset: a literal, one
in parentheses or under a cast, one with an integer added or taken away, or the address of one
of its elements. `eval` gives the values of the integers. -/
def stringPointer? (eval : Expr → Option Value) : Nat → Expr → Option StringPointer
  | 0, _ => none
  | fuel + 1, x =>
    let shifted (p : Option StringPointer) (i : Expr) (sign : Int) : Option StringPointer :=
      match p, eval i with
      | some p, some (.integer c) => some { p with offset := p.offset + sign * c.value }
      | _, _ => none
    match x with
    | .string k units => some ⟨k, units, 0⟩
    | .paren a | .cast _ a | .sourceLocation _ a => stringPointer? eval fuel a
    | .binary "+" a b _ =>
      match stringPointer? eval fuel a with
      | some p => shifted (some p) b 1
      | none => shifted (stringPointer? eval fuel b) a 1
    | .binary "-" a b _ => shifted (stringPointer? eval fuel a) b (-1)
    | .unary "&" (.index a i) =>
      match stringPointer? eval fuel a with
      | some p => shifted (some p) i 1
      | none => shifted (stringPointer? eval fuel i) a 1
    | _ => none

/-- The string literal an argument is, parentheses and casts taken off. -/
def stringLiteralArgument? : Nat → Expr → Option (List Nat)
  | 0, _ => none
  | fuel + 1, x =>
    match x with
    | .string _ units => some units
    | .paren a | .cast _ a => stringLiteralArgument? fuel a
    | _ => none

/-- Whether the text of a string is a number as an integer literal writes it, in the base its
prefix gives (`0x`, `0b`, a leading `0`); the front end reads the payload of a not-a-number so. -/
def isIntegerText (units : List Nat) : Bool :=
  let cs := units.map Char.ofNat
  let all (p : Char → Bool) (ds : List Char) : Bool := !ds.isEmpty && ds.all p
  match cs with
  | '0' :: 'x' :: ds | '0' :: 'X' :: ds => all (fun c => c.isDigit || ('a' ≤ c.toLower && c.toLower ≤ 'f')) ds
  | '0' :: 'b' :: ds | '0' :: 'B' :: ds => all (fun c => c == '0' || c == '1') ds
  | '0' :: ds => ds.all fun c => '0' ≤ c && c ≤ '7'
  | ds => all Char.isDigit ds

/-- The bits of a value of `width` bits in the other order. -/
def reverseBits (width : Nat) (v : Nat) : Nat :=
  (bitsOf width v).foldl (fun acc b => 2 * acc + (if b then 1 else 0)) 0

/-- A value of `width` bits rotated left by `amount` places. -/
def rotateLeft (width : Nat) (v amount : Nat) : Nat :=
  if width == 0 then v
  else
    let s := amount % width
    let m := Nat.pow 2 width
    (v * Nat.pow 2 s + v / Nat.pow 2 (width - s)) % m

/-- The number of zero bits above the highest one of a value of `width` bits. -/
def leadingZeros (width : Nat) (v : Nat) : Nat :=
  ((bitsOf width v).reverse.takeWhile (!·)).length

/-- The number of zero bits below the lowest one of a value of `width` bits. -/
def trailingZeros (width : Nat) (v : Nat) : Nat :=
  ((bitsOf width v).takeWhile (!·)).length

/-- The number of one bits of a value of `width` bits. -/
def onesIn (width : Nat) (v : Nat) : Nat := ((bitsOf width v).filter id).length

/-- Whether a finite value is normal in a format: not zero, and not below the smallest normal
power of two. -/
def FloatValue.isNormalIn (f : BinaryFormat) : FloatValue → Bool
  | .finite _ m e => m != 0 && ((Nat.log2 m : Nat) : Int) + e ≥ f.minExponent + f.precision - 1
  | _ => false

/-- The class bits of a floating value as `__builtin_isfpclass` tests them: signalling and quiet
not-a-number, then negative infinity, normal, subnormal and zero, then the positive ones in the
other order. -/
def FloatValue.classBits (f : BinaryFormat) (v : FloatValue) : Nat :=
  match v with
  | .nan => 2
  | .infinite neg => if neg then 4 else 512
  | .finite neg m _ =>
    if m == 0 then (if neg then 32 else 64)
    else if v.isNormalIn f then (if neg then 8 else 256)
    else if neg then 16 else 128

/-- The class that `__builtin_classify_type` gives a type: `1` for integers and, in C, enums,
`4` for `_Bool`, `5` for pointers, arrays and functions, `8` for floating types, `9` for complex
ones, `12` for structures, `13` for unions, `18` for bit-precise integers, `19` for vectors, and
`-1` for the rest. -/
def Entities.typeClass (e : Entities) : Nat → Ty → Int
  | 0, _ => -1
  | fuel + 1, t =>
    match e.bare t with
    | .builtin _ b =>
      if b == .void then 0 else if b == .bool then 4 else if b == .nullptr then -1
      else if b.isFloating then 8 else 1
    | .tag _ i =>
      match (e.tag i).kind with
      | .enum => if e.cxx then 3 else 1
      | .union => 13
      | _ => 12
    | .pointer .. | .array .. | .function .. | .decayed .. => 5
    | .complex .. => 9
    | .vector .. => 19
    | .bitInt .. => 18
    | .atomic _ inner => e.typeClass fuel inner
    | _ => -1

/-- A context that knows every builtin, for evaluating calls the reader has accepted. -/
def everyBuiltin : BuiltinContext := { gnu := true, microsoft := true, cxx := true }

/-- The value of a call of the builtin function `name` with these arguments, when the front end
folds it: `eval` gives the values of expressions and `typeOf` their types. Nothing comes of a
builtin that constant expressions may not call, of arguments that are not constant, of a count
of leading or trailing zeros of zero, or of a checked arithmetic, which stores its result. -/
def Entities.foldBuiltin (e : Entities) (eval : Expr → Option Value) (typeOf : Expr → Ty)
    (name : String) (args : List Expr) : Option Value := do
  let tm := e.model
  let b ← builtinFunction? everyBuiltin name
  if !b.properties.contains 'E' then none
  let base := if name.startsWith "__builtin_" then (name.drop 10).toString else name
  let signature := if b.customChecked then none else decodeSignature tm b.signature
  let resultType : Builtin := ((signature.bind fun (r, _, _) => e.arithmetic? r)).getD .int
  let param (i : Nat) : Option Builtin := signature.bind fun (_, ps, _) => ps[i]?.bind e.arithmetic?
  let arg (i : Nat) : Option Value := do
    let v ← eval (← args[i]?)
    match param i with
    | some t => v.convert tm t
    | none => some v
  let integerArg (i : Nat) : Option Constant := match arg i with
    | some (.integer c) => some c
    | _ => none
  let floatArg (i : Nat) : Option (FloatValue × Builtin) := match arg i with
    | some (.floating f t) => some (f, t)
    | _ => none
  let bitsArg (i : Nat) : Option (Nat × Nat) := (integerArg i).map fun c =>
    let w := c.type.bitsIn tm
    (w, (c.value % ((Nat.pow 2 w : Nat) : Int)).toNat)
  let result (v : Int) : Option Value := some (.integer (Constant.wrap tm v resultType))
  let floating (v : FloatValue) : Option Value := some (.floating v resultType)
  let pointer (i : Nat) : Option StringPointer := args[i]?.bind (stringPointer? eval depthLimit)
  let stem := if base.endsWith "ll" then base.dropEnd 2 |>.toString
    else if base.endsWith "l" then base.dropEnd 1 |>.toString
    else if base.endsWith "s" && (base.startsWith "clz" || base.startsWith "ctz") then base.dropEnd 1 |>.toString
    else base
  let floatStem :=
    if ["inf", "nan", "nans", "fabs", "copysign", "fmax", "fmin", "huge_val"].contains base then base
    else if base.endsWith "f128" then base.dropEnd 4 |>.toString
    else if base.endsWith "f16" then base.dropEnd 3 |>.toString
    else if base.endsWith "f" || base.endsWith "l" then base.dropEnd 1 |>.toString
    else base
  let sized (family : String) : Bool := ["8", "16", "32", "64"].any (base == family ++ ·)
  if base == "constant_p" then
    let x ← args.head?
    let t := e.bare (typeOf x)
    let pointerLike := match t with
      | .pointer .. | .array .. | .function .. | .decayed .. => true
      | .builtin _ .nullptr => true
      | _ => false
    let known : Bool :=
      if pointerLike then
        match stringPointer? eval depthLimit x with
        | some p => p.offset == 0
        | none =>
          match x with
          | .cast _ a => (eval a).isSome
          | _ => false
      else
        match t with
        | .builtin _ bt => bt != .void && (eval x).isSome
        | .tag _ i => (e.tag i).kind == .enum && (eval x).isSome
        | .bitInt .. => (eval x).isSome
        | _ => false
    return Value.ofTruth known
  if base == "classify_type" then
    return .integer ⟨(args.head?.map fun x => e.typeClass depthLimit (typeOf x)).getD (-1), .int⟩
  if base == "expect" || base == "expect_with_probability" then
    let c ← integerArg 0
    return .integer (Constant.wrap tm c.value resultType)
  if base == "is_constant_evaluated" then return Value.ofTruth true
  if ["bswap16", "bswap32", "bswap64"].contains base then
    let (w, v) ← bitsArg 0
    return ← result (swapBytes (w / 8) v)
  if base.startsWith "bitreverse" then
    let (w, v) ← bitsArg 0
    return ← result (reverseBits w v)
  if sized "rotateleft" || sized "rotateright" || base.startsWith "_rotl" || base.startsWith "_rotr" ||
      base == "_lrotl" || base == "_lrotr" then
    let (w, v) ← bitsArg 0
    let amount ← integerArg 1
    let left := base.startsWith "rotateleft" || base.startsWith "_rotl" || base == "_lrotl"
    let s := (amount.value % (w : Int)).toNat
    return ← result (rotateLeft w v (if left then s else (w - s) % w))
  if ["__lzcnt16", "__lzcnt", "__lzcnt64"].contains base then
    let (w, v) ← bitsArg 0
    return ← result (leadingZeros w v)
  if ["__popcnt16", "__popcnt", "__popcnt64"].contains base then
    let (w, v) ← bitsArg 0
    return ← result (onesIn w v)
  if stem == "clz" || stem == "ctz" then
    let (w, v) ← bitsArg 0
    if v == 0 then none
    return ← result (if stem == "clz" then leadingZeros w v else trailingZeros w v)
  if stem == "ffs" then
    let (w, v) ← bitsArg 0
    return ← result (if v == 0 then 0 else trailingZeros w v + 1)
  if stem == "popcount" || stem == "parity" then
    let (w, v) ← bitsArg 0
    return ← result (if stem == "popcount" then onesIn w v else onesIn w v % 2)
  if stem == "clrsb" then
    let c ← integerArg 0
    let (w, v) ← bitsArg 0
    let sign := if c.value < 0 then Nat.pow 2 w - 1 - v else v
    return ← result (leadingZeros w sign - 1)
  if base == "fpclassify" then
    let x ← args[5]?
    let (f, t) ← match eval x with
      | some (.floating f t) => some (f, t)
      | _ => none
    let k : Nat := match f with
      | .nan => 0
      | .infinite _ => 1
      | .finite _ m _ => if m == 0 then 4 else if f.isNormalIn t.binaryFormat then 2 else 3
    let chosen ← args[k]?
    let v ← eval chosen
    return ← v.convert tm .int
  if ["isinf", "isinf_sign", "isnan", "isfinite", "isnormal", "isfpclass"].contains base then
    let (f, t) ← floatArg 0
    let truth (p : Bool) : Option Value := some (Value.ofTruth p)
    match base with
    | "isinf" => return ← truth (f matches .infinite _)
    | "isinf_sign" =>
      return .integer ⟨match f with
        | .infinite neg => if neg then -1 else 1
        | _ => 0, .int⟩
    | "isnan" => return ← truth (f matches .nan)
    | "isfinite" => return ← truth (f matches .finite ..)
    | "isnormal" => return ← truth (f.isNormalIn t.binaryFormat)
    | _ =>
      let mask ← integerArg 1
      return ← truth ((f.classBits t.binaryFormat) &&& (mask.value % 1024).toNat != 0)
  if ["strlen", "wcslen"].contains base then
    let p ← pointer 0
    if p.isNarrow != (base == "strlen") then none
    return ← result (← p.length?)
  if ["strcmp", "strncmp", "memcmp", "bcmp", "wcscmp", "wcsncmp", "wmemcmp"].contains base then
    let wide := base.startsWith "w"
    let limit : Option Nat ←
      if base == "strcmp" || base == "wcscmp" then pure none
      else do
        let n ← integerArg 2
        pure (some n.value.toNat)
    if limit == some 0 then return ← result 0
    let a ← pointer 0
    let c ← pointer 1
    if a.isNarrow == wide || c.isNarrow == wide then none
    let untilZero := !(base == "memcmp" || base == "bcmp" || base == "wmemcmp")
    let count := limit.getD (a.units.length + 2)
    return ← result (← compareUnits a c untilZero count 0)
  if base == "is_aligned" || base == "align_up" || base == "align_down" then
    let x ← args.head?
    let t ← e.arithmetic? (typeOf x)
    let c ← (eval x).bind (·.convert tm t)
    let y ← args[1]?
    let a ← eval y
    let (v, al) ← match c, a.convert tm t with
      | .integer v, some (.integer al) => some (v.value, al.value)
      | _, _ => none
    let mask := al - 1
    let w := t.bitsIn tm
    let modulus : Int := ((Nat.pow 2 w : Nat) : Int)
    let low (n : Int) : Int := Int.ofNat ((n % modulus).toNat &&& (mask % modulus).toNat)
    match base with
    | "is_aligned" => return .integer ⟨if low v == 0 then 1 else 0, .bool⟩
    | "align_down" => return .integer (Constant.wrap tm (v - low v) t)
    | _ =>
      let up := v + mask
      return .integer (Constant.wrap tm (up - low up) t)
  if base == "__atomic_always_lock_free" || base == "__atomic_is_lock_free" ||
      base == "__c11_atomic_is_lock_free" then
    let size ← integerArg 0
    let n := size.value.toNat
    let inline := n != 0 && n &&& (n - 1) == 0 && n ≤ tm.atomicInline
    let pointerNull : Bool := match args[1]? with
      | some x => match eval x with
        | some (.integer c) => c.value == 0
        | _ => match x with
          | .cast _ a => (eval a).any fun v => !v.truth
          | _ => false
      | none => true
    if inline && (base == "__c11_atomic_is_lock_free" || n == 1 || pointerNull) then
      return Value.ofTruth true
    if base == "__atomic_always_lock_free" then return Value.ofTruth false
    none
  match floatStem with
  | "huge_val" | "inf" => floating (.infinite false)
  | "nan" | "nans" =>
    let units ← args.head?.bind (stringLiteralArgument? depthLimit)
    if units.isEmpty || isIntegerText units then floating .nan else none
  | "fabs" =>
    let (f, _) ← floatArg 0
    floating (if f.signBit then f.negate else f)
  | "copysign" =>
    let (f, _) ← floatArg 0
    let (g, _) ← floatArg 1
    floating (if f.signBit != g.signBit then f.negate else f)
  | "fmax" | "fmin" =>
    let (f, _) ← floatArg 0
    let (g, _) ← floatArg 1
    let greater := floatStem == "fmax"
    let takeSecond :=
      if f.isZero && g.isZero then (if greater then f.signBit else g.signBit)
      else match f, FloatValue.compare? g f with
        | .nan, _ => true
        | _, some o => if greater then o == .gt else o == .lt
        | _, none => false
    floating (if takeSecond then g else f)
  | _ =>
    if base == "__arithmetic_fence" then args.head?.bind eval else none

end NativeBindings.Header
