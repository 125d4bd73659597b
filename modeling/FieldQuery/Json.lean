import FieldQuery.Text
set_option autoImplicit false

namespace FieldQuery

inductive Json where
  | null
  | bool (value : Bool)
  | number (literal : Text)
  | string (text : Text)
  | array (items : List Json)
  | object (fields : List (Text × Json))
  deriving Repr

namespace Json

def nat (n : Nat) : Json := .number (Text.decimal n)

def hexDigit (n : Nat) : Char := Nat.digitChar (n % 16)

def escapeChar (c : Char) : Text :=
  if c = '"' then ['\\', '"']
  else if c = '\\' then ['\\', '\\']
  else if c = '\x08' then ['\\', 'b']
  else if c = '\x0c' then ['\\', 'f']
  else if c = '\n' then ['\\', 'n']
  else if c = '\r' then ['\\', 'r']
  else if c = '\t' then ['\\', 't']
  else if c.toNat < 0x20 then
    ['\\', 'u', '0', '0', hexDigit (c.toNat / 16), hexDigit c.toNat]
  else [c]

def quote (text : Text) : Text := ['"'] ++ text.flatMap escapeChar ++ ['"']

mutual

def compact : Json → Text
  | .null => "null".toList
  | .bool true => "true".toList
  | .bool false => "false".toList
  | .number literal => literal
  | .string text => quote text
  | .array items => ['['] ++ [','].intercalate (compactItems items) ++ [']']
  | .object fields => ['\x7b'] ++ [','].intercalate (compactFields fields) ++ ['\x7d']

def compactItems : List Json → List Text
  | [] => []
  | item :: items => compact item :: compactItems items

def compactFields : List (Text × Json) → List Text
  | [] => []
  | (key, value) :: fields => (quote key ++ [':'] ++ compact value) :: compactFields fields

end

def lineStart (level : Nat) : Text := '\n' :: List.replicate (2 * level) ' '

/-- The parts of an array or object, each on a line of its own; nothing is broken up inside an
empty one. -/
def block (level : Nat) (opening closing : Char) (parts : List Text) : Text :=
  if parts.isEmpty then [opening, closing]
  else [opening] ++ [','].intercalate (parts.map (lineStart (level + 1) ++ ·))
    ++ lineStart level ++ [closing]

mutual

def prettyAt (level : Nat) : Json → Text
  | .null => "null".toList
  | .bool true => "true".toList
  | .bool false => "false".toList
  | .number literal => literal
  | .string text => quote text
  | .array items => block level '[' ']' (prettyItems (level + 1) items)
  | .object fields => block level '\x7b' '\x7d' (prettyFields (level + 1) fields)

def prettyItems (level : Nat) : List Json → List Text
  | [] => []
  | item :: items => prettyAt level item :: prettyItems level items

def prettyFields (level : Nat) : List (Text × Json) → List Text
  | [] => []
  | (key, value) :: fields =>
    (quote key ++ [':', ' '] ++ prettyAt level value) :: prettyFields level fields

end

def pretty (document : Json) : Text := prettyAt 0 document

def write (isPretty : Bool) (document : Json) : Text :=
  if isPretty then document.pretty else document.compact

end Json

end FieldQuery
