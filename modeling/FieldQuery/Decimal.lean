import FieldQuery.Text
set_option autoImplicit false

namespace FieldQuery.Decimal

def isDigit (c : Char) : Bool := '0' ≤ c && c ≤ '9'

def ofDigits (digits : Text) : Nat :=
  digits.foldl (fun n c => 10 * n + (c.toNat - '0'.toNat)) 0

/-- The least number that rounds to infinity: half a unit above the largest float. -/
def overflowBound : Nat := Nat.pow 2 1024 - Nat.pow 2 970

/-- Whether `mantissa * 10 ^ exponent` rounds to infinity. Far from the bound the number of digits
decides, so no large power is computed. -/
def overflows (mantissa : Nat) (exponent : Int) : Bool :=
  let magnitude := exponent + (Nat.toDigits 10 mantissa).length
  if mantissa = 0 then false
  else if magnitude > 310 then true
  else if magnitude < 300 then false
  else if exponent ≥ 0 then overflowBound ≤ mantissa * Nat.pow 10 exponent.toNat
  else overflowBound * Nat.pow 10 (-exponent).toNat ≤ mantissa

/-- The nearest number whose binary digits from the 54th on are zero. A tie goes to the one whose
53rd digit is zero. -/
def roundToFloat (n : Nat) : Nat :=
  let unit := Nat.pow 2 (n.log2 + 1 - 53)
  let below := n / unit
  let excess := 2 * (n % unit)
  if excess < unit ∨ (excess = unit ∧ below % 2 = 0) then below * unit else (below + 1) * unit

def maxPower : Nat := 308

/-- Whether the float product of `significand` and a power of ten, each rounded first, is infinite.
A power that no float comes near to is too large for all but zero. -/
def productOverflows (significand : Nat) (exponent : Int) : Bool :=
  if significand = 0 ∨ exponent < 0 then false
  else if exponent > maxPower then true
  else overflowBound ≤ roundToFloat significand * roundToFloat (Nat.pow 10 exponent.toNat)

end FieldQuery.Decimal
