import FieldQuery.Json
import FieldQuery.Decimal
set_option autoImplicit false

/-! Numbers in JSON. A number keeps its text, and it is refused if it is infinite as a float. Its
float is found from the leading digits that fit in a word of 64 bits and a power of ten. -/

namespace FieldQuery.Json

def digits? (text : Text) : Option (Text × Text) :=
  match text.takeWhile Decimal.isDigit with
  | [] => none
  | digits => some (digits, text.dropWhile Decimal.isDigit)

/-- The digits in front of the point: one zero, or digits that start with another. -/
def integerPart? : Text → Option (Text × Text)
  | '0' :: rest => some (['0'], rest)
  | text => digits? text

def fractionPart? : Text → Option (Text × Text)
  | '.' :: rest => digits? rest
  | text => some ([], text)

def exponentPart? : Text → Option (Bool × Text × Text)
  | 'e' :: rest | 'E' :: rest =>
    match rest with
    | '-' :: rest => (digits? rest).map fun (ds, rest) => (true, ds, rest)
    | '+' :: rest => (digits? rest).map fun (ds, rest) => (false, ds, rest)
    | rest => (digits? rest).map fun (ds, rest) => (false, ds, rest)
  | text => some (false, [], text)

def maxWord : Nat := Nat.pow 2 64 - 1

/-- Appends digits to a word as long as they fit. Leaves the digits from the first one on that does
not. -/
def appendDigits (word : Nat) : Text → Nat × Text
  | [] => (word, [])
  | c :: rest =>
    let longer := 10 * word + Decimal.ofDigits [c]
    if longer ≤ maxWord then appendDigits longer rest else (word, c :: rest)

structure Scaled where
  significand : Nat
  exponent : Int
  deriving DecidableEq, Repr

/-- Each digit that is left out in front of the point makes a power of ten, and each that is taken
behind it takes one off. -/
def Scaled.ofDigits (whole fraction : Text) : Scaled :=
  let (word, dropped) := appendDigits 0 whole
  let (word, ignored) := appendDigits word fraction
  ⟨word, (dropped.length : Int) - (fraction.length - ignored.length : Nat)⟩

/-- Exponents are words of 32 bits with a sign; a larger one decides by its sign alone. -/
def maxExponent : Nat := Nat.pow 2 31 - 1

def Scaled.isInfinite (number : Scaled) (isNegative : Bool) (power : Nat) : Bool :=
  if power > maxExponent then number.significand ≠ 0 && !isNegative
  else
    let exponent := number.exponent + (if isNegative then -(power : Int) else power)
    Decimal.productOverflows number.significand exponent

def number? (text : Text) : Option (Json × Text) := do
  let unsigned := if text.head? = some '-' then text.tail else text
  let (whole, afterWhole) ← integerPart? unsigned
  let (fraction, afterFraction) ← fractionPart? afterWhole
  let (isNegative, exponent, rest) ← exponentPart? afterFraction
  if (Scaled.ofDigits whole fraction).isInfinite isNegative (Decimal.ofDigits exponent) then none
  else some (.number (text.take (text.length - rest.length)), rest)

end FieldQuery.Json
