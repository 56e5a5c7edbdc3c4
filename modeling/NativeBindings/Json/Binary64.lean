/-!
# Double-precision numbers

A JSON number written with a fraction or an exponent stands for the IEEE 754 double nearest to
its decimal value, a tie going to the even significand. `Binary64.ofDecimal` finds that double
by exact integer arithmetic: the value `n * 10 ^ e` is scaled by a power of two until its
integer part has 53 bits (fewer for subnormal numbers, whose exponent stays at `-1074`), and the
rest decides the rounding. Values from `2 ^ 1024` on are infinite; values below half the
smallest subnormal number are zero.

A finite double `significand * 2 ^ exponent` is integral when the exponent is not negative or
the significand has enough factors of two; `toInt?` gives its value then.
-/

namespace NativeBindings.Json

/-- A double: a finite `±significand * 2 ^ exponent`, or an infinity. -/
inductive Binary64 where
  | finite (negative : Bool) (significand : Nat) (exponent : Int)
  | infinite (negative : Bool)
deriving Inhabited, Repr, DecidableEq

namespace Binary64

/-- `n / d` rounded to the nearest integer, a tie to the even one. -/
def roundDiv (n d : Nat) : Nat :=
  let q := n / d
  let r := n % d
  if 2 * r > d || (2 * r == d && q % 2 == 1) then q + 1 else q

/-- The smallest exponent of a double's significand. -/
def minExponent : Int := -1074

/-- The largest exponent of a double's significand. -/
def maxExponent : Int := 971

/-- `num / den` scaled by `2 ^ -s`, rounded. -/
def scaled (num den : Nat) (s : Int) : Nat :=
  if s ≥ 0 then roundDiv num (den * Nat.pow 2 s.toNat) else roundDiv (num * Nat.pow 2 (-s).toNat) den

/-- `num / den` scaled by `2 ^ -s`, truncated. -/
def scaledFloor (num den : Nat) (s : Int) : Nat :=
  if s ≥ 0 then num / (den * Nat.pow 2 s.toNat) else num * Nat.pow 2 (-s).toNat / den

/-- The exponent that gives `num / den` a significand of 53 bits, found from the logarithms of
both and corrected by one step either way. -/
def exponentFor (num den : Nat) : Int :=
  let s0 : Int := (Nat.log2 num : Int) - (Nat.log2 den : Int) - 52
  let q := scaledFloor num den s0
  if q ≥ Nat.pow 2 53 then s0 + 1 else if q < Nat.pow 2 52 then s0 - 1 else s0

/-- The double nearest to the positive rational `num / den`. -/
def ofRatio (negative : Bool) (num den : Nat) : Binary64 :=
  if num == 0 then .finite negative 0 0
  else
    let s := max minExponent (exponentFor num den)
    let q := scaled num den s
    let (q, s) := if q ≥ Nat.pow 2 53 then (q / 2, s + 1) else (q, s)
    if s > maxExponent then .infinite negative else .finite negative q s

/-- The double nearest to `±n * 10 ^ e`. Exponents far beyond the range of doubles give an
infinity or zero at once, so that no huge power is computed. -/
def ofDecimal (negative : Bool) (n : Nat) (e : Int) : Binary64 :=
  let digits : Int := (toString n).length
  if n == 0 then .finite negative 0 0
  else if e + digits > 310 then .infinite negative
  else if e + digits < -330 then .finite negative 0 0
  else if e ≥ 0 then ofRatio negative (n * Nat.pow 10 e.toNat) 1
  else ofRatio negative n (Nat.pow 10 (-e).toNat)

/-- The double of a JSON number `mantissa * 10 ^ exponent`. -/
def ofJson (mantissa exponent : Int) : Binary64 :=
  ofDecimal (mantissa < 0) mantissa.natAbs exponent

/-- The value of a double that is a whole number. -/
def toInt? : Binary64 → Option Int
  | .infinite _ => none
  | .finite neg q s =>
    let v : Option Nat :=
      if s ≥ 0 then some (q * Nat.pow 2 s.toNat)
      else if q % Nat.pow 2 (-s).toNat == 0 then some (q / Nat.pow 2 (-s).toNat) else none
    v.map fun v => if neg then -(v : Int) else v

end Binary64

end NativeBindings.Json
