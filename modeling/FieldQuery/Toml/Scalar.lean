import FieldQuery.Decimal
import FieldQuery.Toml.Value
import FieldQuery.Token.Escape
set_option autoImplicit false

namespace FieldQuery.Toml

open Decimal (isDigit)

def digitGroup? (p : Char → Bool) : Text → Option Text
  | [] => none
  | [c] => if p c then some [c] else none
  | c :: '_' :: rest => if p c then (digitGroup? p rest).map (c :: ·) else none
  | c :: rest => if p c then (digitGroup? p rest).map (c :: ·) else none

def wholeDigits? (text : Text) : Option Text :=
  match digitGroup? isDigit text with
  | some ('0' :: _ :: _) => none
  | digits => digits

def splitSign : Text → Bool × Text
  | '-' :: rest => (true, rest)
  | '+' :: rest => (false, rest)
  | text => (false, text)

/-- Whether an integer fits in 128 bits, which a negative number takes with its sign. -/
def fitsInteger (isNegative : Bool) (magnitude : Nat) : Bool :=
  if isNegative then magnitude ≤ Nat.pow 2 127 else magnitude < Nat.pow 2 128

def radixValue (radix : Nat) (digits : Text) : Nat :=
  digits.foldl (fun n c => radix * n + (Token.hexDigit? c).getD 0) 0

def radixInteger? (radix : Nat) (text : Text) : Option Value := do
  let digits ← digitGroup? (fun c => (Token.hexDigit? c).any (· < radix)) text
  if fitsInteger false (radixValue radix digits) then some .number else none

def integer? (text : Text) : Option Value :=
  match text with
  | '0' :: 'x' :: rest => radixInteger? 16 rest
  | '0' :: 'o' :: rest => radixInteger? 8 rest
  | '0' :: 'b' :: rest => radixInteger? 2 rest
  | text => do
    let (isNegative, unsigned) := splitSign text
    let digits ← wholeDigits? unsigned
    if fitsInteger isNegative (Decimal.ofDigits digits) then some .number else none

def cutAt? (p : Char → Bool) (text : Text) : Option (Text × Text) :=
  match text.dropWhile (!p ·) with
  | [] => none
  | _ :: rest => some (text.takeWhile (!p ·), rest)

def exponent? (text : Text) : Option Int := do
  let (isNegative, unsigned) := splitSign text
  let digits ← digitGroup? isDigit unsigned
  let power : Int := Decimal.ofDigits digits
  some (if isNegative then -power else power)

def float? (text : Text) : Option Value := do
  let unsigned := (splitSign text).2
  let isExponent := fun c : Char => c = 'e' || c = 'E'
  let (mantissa, power) ← match cutAt? isExponent unsigned with
    | some (mantissa, exponent) => do some (mantissa, some (← exponent? exponent))
    | none => some (unsigned, none)
  let (whole, fraction) ← match cutAt? (· = '.') mantissa with
    | some (whole, fraction) => do
      some (← wholeDigits? whole, some (← digitGroup? isDigit fraction))
    | none => do some (← wholeDigits? mantissa, none)
  if power.isNone ∧ fraction.isNone then none
  else
    let fraction := fraction.getD []
    let scale := power.getD 0 - fraction.length
    if Decimal.overflows (Decimal.ofDigits (whole ++ fraction)) scale then none else some .number

def isSpecialFloat (text : Text) : Bool :=
  let unsigned := (splitSign text).2
  unsigned = "inf".toList || unsigned = "nan".toList

def fixedDigits? (count : Nat) (text : Text) : Option (Nat × Text) :=
  let digits := text.take count
  if digits.length = count ∧ digits.all isDigit then
    some (Decimal.ofDigits digits, text.drop count)
  else none

def expect? (c : Char) : Text → Option Text
  | [] => none
  | d :: rest => if d = c then some rest else none

def isLeapYear (year : Nat) : Bool := year % 4 = 0 && (year % 100 ≠ 0 || year % 400 = 0)

def daysInMonth (year month : Nat) : Nat :=
  if month = 2 then (if isLeapYear year then 29 else 28)
  else if month = 4 ∨ month = 6 ∨ month = 9 ∨ month = 11 then 30
  else 31

def date? (text : Text) : Option Text := do
  let (year, rest) ← fixedDigits? 4 text
  let (month, rest) ← fixedDigits? 2 (← expect? '-' rest)
  let (day, rest) ← fixedDigits? 2 (← expect? '-' rest)
  if 1 ≤ month ∧ month ≤ 12 ∧ 1 ≤ day ∧ day ≤ daysInMonth year month then some rest else none

def secondFraction? : Text → Option Text
  | '.' :: rest =>
    if rest.takeWhile isDigit = [] then none else some (rest.dropWhile isDigit)
  | text => some text

def time? (text : Text) : Option Text := do
  let (hour, rest) ← fixedDigits? 2 text
  let (minute, rest) ← fixedDigits? 2 (← expect? ':' rest)
  if hour > 23 ∨ minute > 59 then none
  else match rest with
    | ':' :: rest => do
      let (second, rest) ← fixedDigits? 2 rest
      if second > 60 then none else secondFraction? rest
    | rest => some rest

def isOffset : Text → Bool
  | [] => true
  | [c] => c = 'Z' || c = 'z'
  | c :: rest =>
    if c = '+' ∨ c = '-' then
      match (do
        let (hour, rest) ← fixedDigits? 2 rest
        let (minute, rest) ← fixedDigits? 2 (← expect? ':' rest)
        some (hour, minute, rest)) with
      | some (hour, minute, []) => hour ≤ 23 && minute ≤ 59
      | _ => false
    else false

def isDatetime (text : Text) : Bool :=
  match date? text with
  | some [] => true
  | some (c :: rest) =>
    if c = 'T' ∨ c = 't' ∨ c = ' ' then (time? rest).any isOffset else false
  | none => time? text = some []

def scalar? (text : Text) : Option Value :=
  if text = "true".toList then some (.boolean true)
  else if text = "false".toList then some (.boolean false)
  else if isSpecialFloat text then some .number
  else if isDatetime text then some .datetime
  else integer? text <|> float? text

end FieldQuery.Toml
