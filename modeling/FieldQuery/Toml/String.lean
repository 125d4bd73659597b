import FieldQuery.Text
import FieldQuery.Token.Escape
set_option autoImplicit false

/-! The four forms of a TOML string, read and written: basic and literal, on one line or on several.
Escapes are known to the basic forms alone. The writer takes the first form that needs no escape,
and a basic form if there is none. -/

namespace FieldQuery.Toml

/-- The form of a string: its quote character and whether it may hold newlines. -/
structure Form where
  quote : Char
  multiline : Bool
  deriving DecidableEq, Repr

namespace Form

def basic : Form := ⟨'"', false⟩
def literal : Form := ⟨'\'', false⟩
def longBasic : Form := ⟨'"', true⟩
def longLiteral : Form := ⟨'\'', true⟩

def delimiter (form : Form) : Text :=
  List.replicate (if form.multiline then 3 else 1) form.quote

end Form

def isControl (c : Char) : Bool := c.toNat < 0x20 || c = '\x7f'

def isForbidden (c : Char) : Bool := isControl c && c ≠ '\t'

def scalarChar? (n : Nat) : Option Char := if n.isValidChar then some (Char.ofNat n) else none

def hexEscape? (count : Nat) (text : Text) : Option (Char × Text) := do
  let digits := text.take count
  if digits.length < count then none
  else
    let n ← digits.foldlM (fun n c => (Token.hexDigit? c).map (16 * n + ·)) 0
    some (← scalarChar? n, text.drop count)

def escape? : Text → Option (Char × Text)
  | 'b' :: rest => some ('\x08', rest)
  | 't' :: rest => some ('\t', rest)
  | 'n' :: rest => some ('\n', rest)
  | 'f' :: rest => some ('\x0c', rest)
  | 'r' :: rest => some ('\r', rest)
  | 'e' :: rest => some ('\x1b', rest)
  | '"' :: rest => some ('"', rest)
  | '\\' :: rest => some ('\\', rest)
  | 'x' :: rest => hexEscape? 2 rest
  | 'u' :: rest => hexEscape? 4 rest
  | 'U' :: rest => hexEscape? 8 rest
  | _ => none

def isLineBlank (c : Char) : Bool := c = ' ' || c = '\t'

def newline? : Text → Option Text
  | '\n' :: rest => some rest
  | '\r' :: '\n' :: rest => some rest
  | _ => none

def skipBlanks (text : Text) : Text := text.dropWhile isLineBlank

def skipBlankLinesWithin : Nat → Text → Text
  | 0, text => text
  | fuel + 1, text =>
    match newline? (skipBlanks text) with
    | some rest => skipBlankLinesWithin fuel rest
    | none => skipBlanks text

/-- A backslash at the end of a line takes with it all blanks and newlines that follow. -/
def lineContinuation? (text : Text) : Option Text :=
  (newline? (skipBlanks text)).map fun rest => skipBlankLinesWithin (rest.length + 1) rest

/-- What follows the delimiter that closes a string, and the quotes in front of it that belong to
the text: a long form may end in up to two quotes of its own. -/
def closing? (form : Form) (text : Text) : Option (Text × Text) :=
  if form.multiline then
    if text.take 3 = form.delimiter then
      let extra := ((text.drop 3).take 2).takeWhile (· = form.quote)
      some (extra, text.drop (3 + extra.length))
    else none
  else if text.take 1 = form.delimiter then some ([], text.drop 1)
  else none

def bodyWithin (form : Form) : Nat → Text → Option (Text × Text)
  | 0, _ => none
  | fuel + 1, text =>
    match closing? form text, text with
    | some closed, _ => some closed
    | none, [] => none
    | none, c :: rest =>
      let keep := fun (c : Char) (rest : Text) =>
        (bodyWithin form fuel rest).map fun (body, rest) => (c :: body, rest)
      if c = '\\' ∧ form.quote = '"' then
        match escape? rest with
        | some (e, rest) => keep e rest
        | none =>
          if form.multiline then (lineContinuation? rest).bind (bodyWithin form fuel) else none
      else if c = '\n' then (if form.multiline then keep c rest else none)
      else if c = '\r' then
        if form.multiline && rest.head? = some '\n' then keep c rest else none
      else if isForbidden c then none
      else keep c rest

/-- A newline right behind the opening delimiter of a long form is no part of the text. -/
def dropFirstNewline (text : Text) : Text := (newline? text).getD text

def string? (allowLong : Bool) (text : Text) : Option (Text × Text) :=
  let long := [Form.longBasic, Form.longLiteral].find? fun form => text.take 3 = form.delimiter
  let short := [Form.basic, Form.literal].find? fun form => text.take 1 = form.delimiter
  match long, short with
  | some form, _ =>
    if allowLong then
      let rest := dropFirstNewline (text.drop 3)
      bodyWithin form (rest.length + 1) rest
    else none
  | none, some form => bodyWithin form text.length (text.drop 1)
  | none, none => none

def hasRun (c : Char) (limit : Nat) (text : Text) : Bool :=
  match text with
  | [] => limit = 0
  | _ :: rest => List.replicate limit c = text.take limit || hasRun c limit rest

def hasNewline (text : Text) : Bool := text.contains '\n'

def hasControl (text : Text) : Bool := text.any fun c => isForbidden c && c ≠ '\n'

/-- Whether a form holds a text without an escape, tabs apart. -/
def Form.fits (form : Form) (text : Text) : Bool :=
  !hasControl text && (form.multiline || !hasNewline text)
    && (form.quote ≠ '"' || !text.contains '\\')
    && !hasRun form.quote (if form.multiline then 3 else 1) text

def formOf (text : Text) : Form :=
  match [Form.basic, .literal, .longBasic, .longLiteral].find? (·.fits text) with
  | some form => form
  | none => if hasNewline text then .longBasic else .basic

def upperHexDigit (n : Nat) : Char := (Nat.digitChar (n % 16)).toUpper

def escaped? (multiline : Bool) (c : Char) : Option Text :=
  if c = '\x08' then some ['\\', 'b']
  else if c = '\t' then some ['\\', 't']
  else if c = '\n' then (if multiline then none else some ['\\', 'n'])
  else if c = '\x0c' then some ['\\', 'f']
  else if c = '\r' then some ['\\', 'r']
  else if c = '\\' then some ['\\', '\\']
  else if isControl c then
    some ['\\', 'u', '0', '0', upperHexDigit (c.toNat / 16), upperHexDigit c.toNat]
  else none

/-- The text of a basic form. `quotes` counts the quotes written in a row; the third of them is
escaped in a long form, and every one in a short form. -/
def writeBasic (multiline : Bool) (quotes : Nat) : Text → Text
  | [] => []
  | c :: rest =>
    if c = '"' then
      if multiline ∧ quotes < 2 then c :: writeBasic multiline (quotes + 1) rest
      else '\\' :: c :: writeBasic multiline 0 rest
    else match escaped? multiline c with
      | some escape => escape ++ writeBasic multiline 0 rest
      | none => c :: writeBasic multiline 0 rest

def writeString (text : Text) : Text :=
  let form := formOf text
  let opening := if form.multiline && hasNewline text then ['\n'] else []
  let body := if form.quote = '"' then writeBasic form.multiline 0 text else text
  form.delimiter ++ opening ++ body ++ form.delimiter

end FieldQuery.Toml
