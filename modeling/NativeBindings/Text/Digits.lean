/-!
# Decimal digits

The ASCII digits and the value of a string of them.
-/

namespace NativeBindings.Text

/-- Whether a character is an ASCII decimal digit. -/
def isDigit (c : Char) : Bool := '0' ≤ c && c ≤ '9'

/-- The value of a string of decimal digits. -/
def digitsValue (ds : List Char) : Nat :=
  ds.foldl (fun n c => 10 * n + (c.toNat - '0'.toNat)) 0

theorem digitsValue_nil : digitsValue [] = 0 := rfl

end NativeBindings.Text
