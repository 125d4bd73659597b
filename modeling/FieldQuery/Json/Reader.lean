import FieldQuery.Json.Number
import FieldQuery.Token.Escape
set_option autoImplicit false

namespace FieldQuery.Json

def isBlank (c : Char) : Bool := c = ' ' || c = '\n' || c = '\t' || c = '\r'

def hexValue? (digits : Text) : Option Nat :=
  digits.foldlM (fun n c => (Token.hexDigit? c).map (16 * n + ·)) 0

def isHighSurrogate (n : Nat) : Bool := 0xd800 ≤ n && n < 0xdc00

def isLowSurrogate (n : Nat) : Bool := 0xdc00 ≤ n && n < 0xe000

def pairSurrogates (high low : Nat) : Nat := 0x10000 + (high - 0xd800) * 0x400 + (low - 0xdc00)

def simpleEscape? : Char → Option Char
  | '"' => some '"'
  | '\\' => some '\\'
  | '/' => some '/'
  | 'b' => some '\x08'
  | 'f' => some '\x0c'
  | 'n' => some '\n'
  | 'r' => some '\r'
  | 't' => some '\t'
  | _ => none

def consTo {α : Type} (a : α) : List α × Text → List α × Text
  | (as, rest) => (a :: as, rest)

/-- A string, given what follows its opening quote. `high` is a high surrogate that waits for its
other half. -/
def stringBody (high : Option Nat) : Text → Option (Text × Text)
  | '\\' :: 'u' :: a :: b :: c :: d :: rest =>
    match hexValue? [a, b, c, d], high with
    | none, _ => none
    | some n, some high =>
      if isLowSurrogate n then
        (stringBody none rest).map (consTo (Char.ofNat (pairSurrogates high n)))
      else none
    | some n, none =>
      if isHighSurrogate n then stringBody (some n) rest
      else if isLowSurrogate n then none
      else (stringBody none rest).map (consTo (Char.ofNat n))
  | '\\' :: e :: rest =>
    match high, simpleEscape? e with
    | none, some c => (stringBody none rest).map (consTo c)
    | _, _ => none
  | c :: rest =>
    if high.isSome then none
    else if c = '"' then some ([], rest)
    else if c = '\\' ∨ c.toNat < 0x20 then none
    else (stringBody none rest).map (consTo c)
  | [] => none

def opened? (levels : Nat) : Option Nat :=
  match levels with
  | 0 => none
  | levels + 1 => some levels

mutual

/-- A value and what follows it. `levels` bounds how deep arrays and objects may nest. -/
def valueWithin : (fuel levels : Nat) → Text → Option (Json × Text)
  | 0, _, _ => none
  | fuel + 1, levels, text =>
    match text.dropWhile isBlank with
    | 'n' :: 'u' :: 'l' :: 'l' :: rest => some (.null, rest)
    | 't' :: 'r' :: 'u' :: 'e' :: rest => some (.bool true, rest)
    | 'f' :: 'a' :: 'l' :: 's' :: 'e' :: rest => some (.bool false, rest)
    | '"' :: rest => (stringBody none rest).map fun (s, rest) => (.string s, rest)
    | '[' :: rest => do
      let levels ← opened? levels
      match rest.dropWhile isBlank with
      | ']' :: rest => some (.array [], rest)
      | rest =>
        let (items, rest) ← itemsWithin fuel levels rest
        some (.array items, rest)
    | '\x7b' :: rest => do
      let levels ← opened? levels
      match rest.dropWhile isBlank with
      | '\x7d' :: rest => some (.object [], rest)
      | rest =>
        let (fields, rest) ← fieldsWithin fuel levels rest
        some (.object fields, rest)
    | rest => number? rest

def itemsWithin : (fuel levels : Nat) → Text → Option (List Json × Text)
  | 0, _, _ => none
  | fuel + 1, levels, text => do
    let (item, rest) ← valueWithin fuel levels text
    match rest.dropWhile isBlank with
    | ',' :: rest => (itemsWithin fuel levels rest).map (consTo item)
    | ']' :: rest => some ([item], rest)
    | _ => none

def fieldsWithin : (fuel levels : Nat) → Text → Option (List (Text × Json) × Text)
  | 0, _, _ => none
  | fuel + 1, levels, text =>
    match text.dropWhile isBlank with
    | '"' :: rest => do
      let (key, rest) ← stringBody none rest
      match rest.dropWhile isBlank with
      | ':' :: rest =>
        let (value, rest) ← valueWithin fuel levels rest
        match rest.dropWhile isBlank with
        | ',' :: rest => (fieldsWithin fuel levels rest).map (consTo (key, value))
        | '\x7d' :: rest => some ([(key, value)], rest)
        | _ => none
      | _ => none
    | _ => none

end

def maxNesting : Nat := 127

/-- Reads the value at the front of a text. Of two rounds in a row one takes a character, so twice
the length is enough fuel. -/
def read? (text : Text) : Option (Json × Text) :=
  valueWithin (2 * text.length + 2) maxNesting text

end FieldQuery.Json
