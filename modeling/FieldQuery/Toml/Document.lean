import FieldQuery.Toml.Scalar
import FieldQuery.Toml.String
set_option autoImplicit false

/-! Reading a TOML document into its root table. The document is read line by line; the table of the
last header is kept apart from the root until the next header or the end. -/

namespace FieldQuery.Toml

def isBareKeyChar (c : Char) : Bool :=
  ('0' ≤ c && c ≤ '9') || ('A' ≤ c && c ≤ 'Z') || ('a' ≤ c && c ≤ 'z') || c = '_' || c = '-'

def keyPart? (text : Text) : Option (Text × Text) :=
  match text.takeWhile isBareKeyChar with
  | [] => string? false text
  | word => some (word, text.dropWhile isBareKeyChar)

/-- A dotted key as its path and its last part, and what follows it, blanks left out. -/
def keyWithin : Nat → Text → Option ((List Text × Text) × Text)
  | 0, _ => none
  | fuel + 1, text => do
    let (part, rest) ← keyPart? text
    match skipBlanks rest with
    | '.' :: rest =>
      let ((path, key), rest) ← keyWithin fuel (skipBlanks rest)
      some ((part :: path, key), rest)
    | rest => some (([], part), rest)

def maxKeyParts : Nat := 80

def key? (text : Text) : Option ((List Text × Text) × Text) := do
  let ((path, key), rest) ← keyWithin (text.length + 1) text
  guard (path.length < maxKeyParts)
  some ((path, key), rest)

def skipComment? (text : Text) : Option Text :=
  match text with
  | '#' :: rest =>
    let rest := rest.dropWhile fun c => !isForbidden c
    if rest.isEmpty || (newline? rest).isSome then some rest else none
  | text => some text

def lineEnd? (text : Text) : Option Text := do
  let rest ← skipComment? (skipBlanks text)
  if rest.isEmpty then some [] else newline? rest

def skipLinesWithin : Nat → Text → Option Text
  | 0, text => some text
  | fuel + 1, text => do
    let rest ← skipComment? (skipBlanks text)
    match newline? rest with
    | some rest => skipLinesWithin fuel rest
    | none => some rest

def skipLines? (text : Text) : Option Text := skipLinesWithin text.length text

def endsScalar (c : Char) : Bool :=
  c = ',' || c = '[' || c = ']' || c = '\x7b' || c = '\x7d' || c = '=' || c = '#' || c = ' '
    || c = '\t' || c = '\n' || c = '\r'

/-- The characters of a value without delimiters. A date may have a time behind one space. -/
def scalarText (text : Text) : Text × Text :=
  let word := text.takeWhile (!endsScalar ·)
  let rest := text.dropWhile (!endsScalar ·)
  match rest with
  | ' ' :: c :: behind =>
    if date? word = some [] ∧ Decimal.isDigit c then
      let time := (c :: behind).takeWhile (!endsScalar ·)
      (word ++ [' '] ++ time, (c :: behind).dropWhile (!endsScalar ·))
    else (word, rest)
  | _ => (word, rest)

/-- Arrays and inline tables that may be open at one time. -/
def maxNesting : Nat := 80

mutual

def valueWithin : (fuel levels : Nat) → Text → Option (Value × Text)
  | 0, _, _ => none
  | fuel + 1, levels, text =>
    match text with
    | '[' :: rest =>
      match levels with
      | 0 => none
      | levels + 1 => do
        let (items, rest) ← itemsWithin fuel levels (← skipLines? rest)
        some (.array items, rest)
    | '\x7b' :: rest =>
      match levels with
      | 0 => none
      | levels + 1 => do
        let (entries, rest) ← entriesWithin fuel levels [] (← skipLines? rest)
        some (.table .braces entries, rest)
    | text =>
      if text.head? = some '"' ∨ text.head? = some '\'' then
        (string? true text).map fun (s, rest) => (.string s, rest)
      else
        let (word, rest) := scalarText text
        (scalar? word).map fun value => (value, rest)

def itemsWithin : (fuel levels : Nat) → Text → Option (List Value × Text)
  | 0, _, _ => none
  | fuel + 1, levels, text =>
    match text with
    | ']' :: rest => some ([], rest)
    | text => do
      let (item, rest) ← valueWithin fuel levels text
      match ← skipLines? rest with
      | ',' :: rest =>
        let (items, rest) ← itemsWithin fuel levels (← skipLines? rest)
        some (item :: items, rest)
      | ']' :: rest => some ([item], rest)
      | _ => none

def entriesWithin : (fuel levels : Nat) → Entries → Text → Option (Entries × Text)
  | 0, _, _, _ => none
  | fuel + 1, levels, entries, text =>
    match text with
    | '\x7d' :: rest => some (entries, rest)
    | text => do
      let ((path, key), rest) ← key? text
      let rest ← expect? '=' rest
      let (value, rest) ← valueWithin fuel levels (skipBlanks rest)
      let entries ← define path key value .header entries
      match ← skipLines? rest with
      | ',' :: rest => entriesWithin fuel levels entries (← skipLines? rest)
      | '\x7d' :: rest => some (entries, rest)
      | _ => none

end

/-- Reads a value. Of two rounds in a row one takes a character. -/
def value? (text : Text) : Option (Value × Text) :=
  valueWithin (2 * text.length + 2) maxNesting text

/-- A header: its path, its last key, and whether it adds to an array of tables. -/
structure Header where
  path : List Text
  key : Text
  isArray : Bool
  deriving DecidableEq, Repr

def header? (text : Text) : Option (Header × Text) :=
  match text with
  | '[' :: rest => do
    let ((path, key), rest) ← key? (skipBlanks rest)
    let rest ← expect? ']' rest
    let rest ← expect? ']' rest
    some (⟨path, key, true⟩, rest)
  | rest => do
    let ((path, key), rest) ← key? (skipBlanks rest)
    let rest ← expect? ']' rest
    some (⟨path, key, false⟩, rest)

/-- What has been read so far: the finished tables, and the last header with its own entries. -/
structure Reading where
  root : Entries
  header : Option Header
  entries : Entries
  deriving Repr

namespace Reading

def close (r : Reading) : Option Entries :=
  match r.header with
  | none => some r.entries
  | some h =>
    let table := Value.table .header r.entries
    modifyAt false (fun _ parent =>
      if h.isArray then
        match parent.get? h.key with
        | none => some (parent.set h.key (.tables [table]))
        | some (.tables items) => some (parent.set h.key (.tables (items ++ [table])))
        | some _ => none
      else some (parent.set h.key table)) h.path .header r.root

/-- The entries that a table already has through longer headers, or nothing if it may not be
defined again. -/
def inherited (h : Header) (parent : Entries) : Option Entries :=
  if h.isArray then
    match parent.get? h.key with
    | none | some (.tables _) => some []
    | some _ => none
  else match parent.get? h.key with
    | none => some []
    | some (.table .impliedByHeader entries) => some entries
    | some _ => none

def parentOf : List Text → Entries → Option Entries
  | [], entries => some entries
  | key :: path, entries =>
    match entries.get? key with
    | none => some []
    | some (.table origin inner) => if origin.admits false then parentOf path inner else none
    | some (.tables items) =>
      match items.getLast? with
      | some (.table _ inner) => parentOf path inner
      | _ => none
    | some _ => none

def start (r : Reading) (h : Header) : Option Reading := do
  let root ← r.close
  let entries ← inherited h (← parentOf h.path root)
  some ⟨root, some h, entries⟩

def line (r : Reading) (text : Text) : Option (Reading × Text) :=
  match skipBlanks text with
  | '[' :: rest => do
    let (h, rest) ← header? rest
    let rest ← lineEnd? rest
    some (← r.start h, rest)
  | [] => some (r, [])
  | c :: rest =>
    if c = '#' ∨ (newline? (c :: rest)).isSome then do
      some (r, ← lineEnd? (c :: rest))
    else do
      let ((path, key), rest) ← key? (c :: rest)
      let rest ← expect? '=' rest
      let (value, rest) ← value? (skipBlanks rest)
      let rest ← lineEnd? rest
      some ({ r with entries := ← define path key value .header r.entries }, rest)

def linesWithin : Nat → Reading → Text → Option Reading
  | 0, r, _ => some r
  | fuel + 1, r, text =>
    match text with
    | [] => some r
    | text => do
      let (r, rest) ← r.line text
      linesWithin fuel r rest

end Reading

def document? (text : Text) : Option Entries := do
  let text := if text.head? = some '\ufeff' then text.tail else text
  let r ← Reading.linesWithin text.length ⟨[], none, []⟩ text
  r.close

end FieldQuery.Toml
