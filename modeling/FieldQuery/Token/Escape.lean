import FieldQuery.Text
set_option autoImplicit false

namespace FieldQuery.Token

def hexDigit? (c : Char) : Option Nat :=
  if '0' ≤ c ∧ c ≤ '9' then some (c.toNat - '0'.toNat)
  else if 'a' ≤ c ∧ c ≤ 'f' then some (c.toNat - 'a'.toNat + 10)
  else if 'A' ≤ c ∧ c ≤ 'F' then some (c.toNat - 'A'.toNat + 10)
  else none

def octalDigit? (c : Char) : Option Nat :=
  if '0' ≤ c ∧ c ≤ '7' then some (c.toNat - '0'.toNat) else none

def digits (base : Nat) (digit? : Char → Option Nat) : (limit value : Nat) → Text → Nat × Text
  | 0, value, cs => (value, cs)
  | _ + 1, value, [] => (value, [])
  | limit + 1, value, c :: cs =>
    match digit? c with
    | some d => digits base digit? limit (value * base + d) cs
    | none => (value, c :: cs)

/-- A numeric escape names one byte, read as Latin-1. -/
def byteChar (value : Nat) : Char := Char.ofNat (value % 256)

def namedEscape? : Char → Option Char
  | 'a' => some '\x07'
  | 'b' => some '\x08'
  | 'f' => some '\x0c'
  | 'n' => some '\n'
  | 'r' => some '\r'
  | 't' => some '\t'
  | 'v' => some '\x0b'
  | _ => none

/-- The character an escape stands for, given what follows the backslash and its first character,
together with what is left behind the escape. -/
def escape (c : Char) (rest : Text) : Char × Text :=
  match namedEscape? c with
  | some value => (value, rest)
  | none =>
    match octalDigit? c with
    | some d =>
      let (value, rest) := digits 8 octalDigit? 2 d rest
      (byteChar value, rest)
    | none =>
      if c = 'x' then
        match rest with
        | [] => (c, [])
        | h :: hs =>
          match hexDigit? h with
          | some d =>
            let (value, rest) := digits 16 hexDigit? 1 d hs
            (byteChar value, rest)
          | none => (c, h :: hs)
      else (c, rest)

def unescapeWithin : Nat → Text → Text
  | 0, _ => []
  | _ + 1, [] => []
  | fuel + 1, c :: cs =>
    if c = '\\' then
      match cs with
      | [] => ['\\']
      | e :: rest =>
        let (value, rest) := escape e rest
        value :: unescapeWithin fuel rest
    else c :: unescapeWithin fuel cs

/-- Every unit takes at least one character, so as many rounds as there are characters suffice. -/
def unescape (raw : Text) : Text := unescapeWithin raw.length raw

end FieldQuery.Token
