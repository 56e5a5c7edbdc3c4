import NativeBindings.Header.Literal

/-!
# Floating values

Constant expressions may hold floating values: a literal cast to an integer type, a comparison
of two literals, a sum under a cast. Such a value is exact binary arithmetic: a significand of
the format's precision times a power of two. Every operation on finite values is computed as an
exact fraction and then rounded to the nearest value of the format, a tie going to the even
significand, which is what the hardware formats do.

A value is printed as the front end prints a floating literal: with as many decimal digits as
the format needs to be read back (`2 + precision * 59 / 196` of them), rounded half up, without
trailing zeros, and in scientific notation when plain notation would need more than three
padding zeros.
-/

namespace NativeBindings.Header

/-- A binary floating format: the bits of its significand, the exponent of the last bit of its
smallest subnormal value, and the exponent of the first power of two too large for it. -/
structure BinaryFormat where
  precision : Nat
  minExponent : Int
  maxExponent : Int
deriving DecidableEq, Inhabited, Repr

namespace BinaryFormat

/-- IEEE half precision, of `_Float16` and `__fp16`. -/
def half : BinaryFormat := ⟨11, -24, 16⟩

/-- The brain format of `__bf16`. -/
def brain : BinaryFormat := ⟨8, -133, 128⟩

/-- IEEE single precision, of `float`. -/
def single : BinaryFormat := ⟨24, -149, 128⟩

/-- IEEE double precision, of `double`. -/
def double : BinaryFormat := ⟨53, -1074, 1024⟩

/-- The x87 extended precision of `long double`. -/
def extended : BinaryFormat := ⟨64, -16445, 16384⟩

/-- IEEE quadruple precision, of `__float128`. -/
def quad : BinaryFormat := ⟨113, -16494, 16384⟩

/-- The decimal digits with which a value of the format is printed. -/
def digits (f : BinaryFormat) : Nat := 2 + f.precision * 59 / 196

/-- The decimal digits with which a value of the format is shown in a warning about a
conversion that changes it: one for every 196/59 bits of precision, the last one rounded up. -/
def warningDigits (f : BinaryFormat) : Nat := (f.precision * 59 + 195) / 196

end BinaryFormat

/-- A floating value: a finite `±significand * 2 ^ exponent`, an infinity, or not a number. -/
inductive FloatValue where
  | finite (negative : Bool) (significand : Nat) (exponent : Int)
  | infinite (negative : Bool)
  | nan
deriving DecidableEq, Inhabited, Repr

/-- `n / d` rounded to the nearest integer, a tie to the even one. -/
def roundHalfEven (n d : Nat) : Nat :=
  let q := n / d
  let r := n % d
  if 2 * r > d || (2 * r == d && q % 2 == 1) then q + 1 else q

/-- `num / den` scaled by `2 ^ -s`, with the rounding of `r`. -/
def scaleBy (r : Nat → Nat → Nat) (num den : Nat) (s : Int) : Nat :=
  if s ≥ 0 then r num (den * Nat.pow 2 s.toNat) else r (num * Nat.pow 2 (-s).toNat) den

/-- The exponent that gives `num / den` a significand of `p` bits, found from the logarithms of
both and corrected by one step either way. -/
def exponentOfBits (p num den : Nat) : Int :=
  let s0 : Int := (Nat.log2 num : Int) - (Nat.log2 den : Int) - ((p : Int) - 1)
  let q := scaleBy (· / ·) num den s0
  if q ≥ Nat.pow 2 p then s0 + 1 else if q < Nat.pow 2 (p - 1) then s0 - 1 else s0

namespace BinaryFormat

/-- The value of the format nearest to `±num / den`: infinite from the largest power of two
of the format on. -/
def round (f : BinaryFormat) (negative : Bool) (num den : Nat) : FloatValue :=
  if num == 0 || den == 0 then .finite negative 0 0
  else
    let s := max f.minExponent (exponentOfBits f.precision num den)
    let q := scaleBy roundHalfEven num den s
    let (q, s) := if q ≥ Nat.pow 2 f.precision then (q / 2, s + 1) else (q, s)
    if q == 0 then .finite negative 0 0
    else if s + f.precision > f.maxExponent then .infinite negative
    else .finite negative q s

/-- The value of the format nearest to the fraction `num / den`. -/
def ofFraction (f : BinaryFormat) (num : Int) (den : Nat) : FloatValue :=
  f.round (num < 0) num.natAbs den

/-- The value of the format nearest to an integer. -/
def ofInt (f : BinaryFormat) (v : Int) : FloatValue := f.ofFraction v 1

/-- The largest finite value of the format: every bit of the significand set, at the largest
exponent. -/
def largest (f : BinaryFormat) : FloatValue :=
  .finite false (Nat.pow 2 f.precision - 1) (f.maxExponent - f.precision)

/-- The smallest positive value of the format, the least subnormal one. -/
def smallest (f : BinaryFormat) : FloatValue := .finite false 1 f.minExponent

end BinaryFormat

namespace FloatValue

/-- A finite value as a fraction. -/
def fraction? : FloatValue → Option (Int × Nat)
  | .finite neg m e =>
    let num : Nat := if e ≥ 0 then m * Nat.pow 2 e.toNat else m
    let den : Nat := if e ≥ 0 then 1 else Nat.pow 2 (-e).toNat
    some (if neg then -(num : Int) else num, den)
  | _ => none

/-- Whether the value is zero. -/
def isZero : FloatValue → Bool
  | .finite _ m _ => m == 0
  | _ => false

/-- Whether the value is negative, zero not included. -/
def isNegative : FloatValue → Bool
  | .finite neg m _ => neg && m != 0
  | .infinite neg => neg
  | .nan => false

/-- The sign bit of the value: set for the negative values and for negative zero. -/
def signBit : FloatValue → Bool
  | .finite neg _ _ => neg
  | .infinite neg => neg
  | .nan => false

/-- The value with its sign changed. -/
def negate : FloatValue → FloatValue
  | .finite neg m e => .finite (!neg) m e
  | .infinite neg => .infinite (!neg)
  | .nan => .nan

/-- The value rounded to a format. -/
def convert (f : BinaryFormat) (v : FloatValue) : FloatValue :=
  match v with
  | .finite neg m _ =>
    if m == 0 then v
    else
      match v.fraction? with
      | some (n, d) => f.round neg n.natAbs d
      | none => v
  | _ => v

/-- The integer part of a finite value, rounded toward zero. -/
def truncate? (v : FloatValue) : Option Int :=
  v.fraction?.map fun (n, d) => n.tdiv d

/-- The sum, difference, product or quotient of two values, rounded to a format. -/
def arithmetic (f : BinaryFormat) (op : String) (a b : FloatValue) : Option FloatValue :=
  -- an exact zero takes its sign as the standard says: the product and quotient of the signs,
  -- and for a sum negative only when both terms are negative zeros
  let signedZero (v : FloatValue) (negative : Bool) : FloatValue :=
    if v.isZero then .finite negative 0 0 else v
  match a.fraction?, b.fraction? with
  | some (n1, d1), some (n2, d2) =>
    match op with
    | "+" => some (signedZero (f.ofFraction (n1 * d2 + n2 * d1) (d1 * d2))
        (a.isZero && b.isZero && a.signBit && b.signBit))
    | "-" => some (signedZero (f.ofFraction (n1 * d2 - n2 * d1) (d1 * d2))
        (a.isZero && b.isZero && a.signBit && !b.signBit))
    | "*" => some (signedZero (f.ofFraction (n1 * n2) (d1 * d2)) (a.signBit != b.signBit))
    | "/" =>
      if n2 == 0 then
        if n1 == 0 then some .nan else some (.infinite (a.signBit != b.signBit))
      else
        let num := n1 * d2 * (if n2 < 0 then -1 else 1)
        some (signedZero (f.ofFraction num (d1 * n2.natAbs)) (a.signBit != b.signBit))
    | _ => none
  | _, _ =>
    match op, a, b with
    | _, .nan, _ | _, _, .nan => some .nan
    | "+", .infinite x, .infinite y => some (if x == y then .infinite x else .nan)
    | "-", .infinite x, .infinite y => some (if x != y then .infinite x else .nan)
    | "+", .infinite x, _ | "-", .infinite x, _ => some (.infinite x)
    | "+", _, .infinite y => some (.infinite y)
    | "-", _, .infinite y => some (.infinite (!y))
    | "*", x, y =>
      if x.isZero || y.isZero then some .nan
      else some (.infinite (x.signBit != y.signBit))
    | "/", .infinite _, .infinite _ => some .nan
    | "/", .infinite x, y => some (.infinite (x != y.signBit))
    | "/", x, .infinite y => some (.finite (x.signBit != y) 0 0)
    | _, _, _ => none

/-- How two values compare: `none` when one is not a number. -/
def compare? (a b : FloatValue) : Option Ordering :=
  match a.fraction?, b.fraction? with
  | some (n1, d1), some (n2, d2) => some (Ord.compare (n1 * d2) (n2 * d1))
  | _, _ =>
    match a, b with
    | .nan, _ | _, .nan => none
    | .infinite x, .infinite y => some (if x == y then .eq else if x then .lt else .gt)
    | .infinite x, _ => some (if x then .lt else .gt)
    | _, .infinite y => some (if y then .gt else .lt)
    | _, _ => none

end FloatValue

/-- The value of a floating literal's spelling in a format: decimal digits with an optional
`e` exponent, or hexadecimal digits with a `p` exponent of two; separators and the suffix are
passed over. -/
def FloatValue.ofLiteral (f : BinaryFormat) (text : String) : FloatValue :=
  let cs := text.toList.filter (· != '\'')
  let (hex, cs) := match cs with
    | '0' :: x :: rest => if x == 'x' || x == 'X' then (true, rest) else (false, cs)
    | _ => (false, cs)
  let isDigit (c : Char) : Bool := if hex then isHexDigit c else c.isDigit
  let whole := cs.takeWhile isDigit
  let cs := cs.drop whole.length
  let (frac, cs) := match cs with
    | '.' :: rest => (rest.takeWhile isDigit, rest.drop (rest.takeWhile isDigit).length)
    | _ => ([], cs)
  let exponent : Int := match cs with
    | c :: rest =>
      if c == 'e' || c == 'E' || c == 'p' || c == 'P' then
        let (neg, rest) := match rest with
          | '-' :: r => (true, r)
          | '+' :: r => (false, r)
          | r => (false, r)
        let n : Int := digitsIn 10 (rest.takeWhile Char.isDigit)
        if neg then -n else n
      else 0
    | [] => 0
  let digits := whole ++ frac
  let n := digitsIn (if hex then 16 else 10) digits
  if n == 0 then .finite false 0 0
  else if hex then
    let e : Int := exponent - 4 * frac.length
    if e > 20000 then .infinite false
    else if e < -20000 - 4 * (digits.length : Int) then .finite false 0 0
    else if e ≥ 0 then f.round false (n * Nat.pow 2 e.toNat) 1 else f.round false n (Nat.pow 2 (-e).toNat)
  else
    let e : Int := exponent - frac.length
    if e + digits.length > 5000 then .infinite false
    else if e + digits.length < -5100 then .finite false 0 0
    else if e ≥ 0 then f.round false (n * Nat.pow 10 e.toNat) 1 else f.round false n (Nat.pow 10 (-e).toNat)

/-- Whether a floating literal's spelling has a digit other than zero before its exponent, so
that its value is not zero. -/
def literalHasValue (text : String) : Bool :=
  let cs := text.toList.filter (· != '\'')
  let nonzero (isDigit : Char → Bool) (marks : List Char) (ds : List Char) : Bool :=
    (ds.takeWhile (!marks.contains ·)).any fun c => isDigit c && c != '0'
  match cs with
  | '0' :: x :: rest =>
    if x == 'x' || x == 'X' then nonzero isHexDigit ['p', 'P'] rest
    else nonzero Char.isDigit ['e', 'E'] cs
  | _ => nonzero Char.isDigit ['e', 'E'] cs

/-- The number of times two divides a positive number, up to `fuel`. -/
def twos : Nat → Nat → Nat
  | 0, _ => 0
  | fuel + 1, n => if n == 0 || n % 2 != 0 then 0 else 1 + twos fuel (n / 2)

/-- Rounds decimal digits, least significant first, to `p` of them, half up; the decimal
exponent of the last digit grows by the digits dropped. Zeros at the end of what is kept are
dropped too. -/
def roundDigits (p : Nat) (ds : List Nat) (exp : Int) : List Nat × Int :=
  let n := ds.length
  if n ≤ p then (ds, exp)
  else
    let first := n - p
    if ds.getD (first - 1) 0 < 5 then
      let zeros := ((ds.drop first).takeWhile (· == 0)).length
      let first := min n (first + zeros)
      (ds.drop first, exp + first)
    else
      let nines := ((ds.drop first).takeWhile (· == 9)).length
      let first := first + nines
      if first ≥ n then ([1], exp + first)
      else
        let kept := ds.drop first
        ((kept.headD 0 + 1) :: kept.tail, exp + first)

/-- The digits of a decimal number, least significant first. -/
def decimalDigits (n : Nat) : List Nat :=
  (toString n).toList.reverse.map fun c => c.toNat - '0'.toNat

/-- The text of the positive value `m * 2 ^ e` with `p` significant digits at most. -/
def printMagnitude (p : Nat) (m : Nat) (e : Int) : String :=
  let tz := twos (Nat.log2 m + 1) m
  let m := m / Nat.pow 2 tz
  let e := e + tz
  let (sig, exp) : Nat × Int := if e ≥ 0 then (m * Nat.pow 2 e.toNat, 0) else (m * Nat.pow 5 (-e).toNat, e)
  let bits := Nat.log2 sig + 1
  let required := (p * 196 + 58) / 59
  let (sig, exp) :=
    if bits ≤ required then (sig, exp)
    else
      let tens := (bits - required) * 59 / 196
      (sig / Nat.pow 10 tens, exp + tens)
  let ds := decimalDigits sig
  let zeros := (ds.takeWhile (· == 0)).length
  let (ds, exp) := roundDigits p (ds.drop zeros) (exp + zeros)
  let n := ds.length
  let text (xs : List Nat) : String := String.ofList (xs.reverse.map fun d => Char.ofNat (d + '0'.toNat))
  let scientific :=
    if exp ≥ 0 then exp > 3 || n + exp > p
    else
      let msd := exp + n - 1
      if msd ≥ 0 then false else -msd > 3
  if scientific then
    let e := exp + n - 1
    let lead := text (ds.drop (n - 1))
    let rest := if n == 1 then "0" else text (ds.take (n - 1))
    lead ++ "." ++ rest ++ "E" ++ (if e ≥ 0 then "+" else "-") ++ toString e.natAbs
  else if exp ≥ 0 then text ds ++ String.ofList (List.replicate exp.toNat '0')
  else
    let whole := exp + n
    if whole > 0 then
      text (ds.drop (n - whole.toNat)) ++ "." ++ text (ds.take (n - whole.toNat))
    else "0." ++ String.ofList (List.replicate (-whole).toNat '0') ++ text ds

/-- The text of a value with `p` significant digits at most. -/
def FloatValue.printDigits (p : Nat) : FloatValue → String
  | .nan => "NaN"
  | .infinite neg => if neg then "-Inf" else "+Inf"
  | .finite neg m e =>
    (if neg then "-" else "") ++ (if m == 0 then "0" else printMagnitude p m e)

/-- The text of a value in a format, as a literal of it is printed, without its suffix. -/
def FloatValue.print (f : BinaryFormat) (v : FloatValue) : String := v.printDigits f.digits

end NativeBindings.Header
