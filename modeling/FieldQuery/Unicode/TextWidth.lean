import FieldQuery.Unicode.Ligature
set_option autoImplicit false

/-! How many terminal cells a text takes. Its characters are added from the right, because what
stands behind a character decides how it is drawn: a variation selector, a skin tone, the members
of an emoji behind U+200D, the tags of a flag, the second indicator of a region, the end of a
ligature. -/

namespace FieldQuery.Unicode

/-- The variation selectors that change a width. -/
inductive Selector where
  | text
  | emoji
  | quotation
  deriving DecidableEq, Repr

def Selector.ofChar? : Nat → Option Selector
  | 0xfe0e => some .text
  | 0xfe0f => some .emoji
  | 0xfe01 => some .quotation
  | _ => none

/-- What the characters to the right are to the next one. The joined ones stand in front of an
emoji, with U+200D between. -/
inductive Neighbour where
  | plain
  | ligature (part : Ligature)
  | emoji
  | skinTone
  | indicator
  | indicators
  | joiner
  | joinedKeycap
  | joinedIndicator
  | joinedIndicators (isEven : Bool)
  | tagLetters (count : Nat)
  | tagDigits (count : Nat)
  deriving DecidableEq, Repr

namespace Neighbour

def ofChar (n : Nat) : Neighbour :=
  match Ligature.ofChar? n with
  | some part => .ligature part
  | none =>
    if isRegionalIndicator n then .indicator
    else if isSkinTone n then .skinTone
    else if isEmoji n then .emoji
    else .plain

def ofLigature? : Option Ligature → Neighbour
  | some part => .ligature part
  | none => .plain

def alone (n : Nat) : Int × Neighbour := (charWidth n, ofChar n)

/-- The tags spell a region of two letters or three digits and a part of it of at most four letters
or digits, read from the right. -/
def addTag (n : Nat) : Neighbour → Int × Neighbour
  | .tagLetters count =>
    if isTagLetter n ∧ count < 6 then (0, .tagLetters (count + 1))
    else if isTagDigit n ∧ count ≤ 4 then (0, .tagDigits 1)
    else if n = blackFlag ∧ 3 ≤ count then (0, .emoji)
    else alone n
  | .tagDigits count =>
    if isTagDigit n ∧ count < 3 then (0, .tagDigits (count + 1))
    else if isTagLetter n then (0, .tagLetters (count + 1))
    else if n = blackFlag ∧ 3 ≤ count then (0, .emoji)
    else alone n
  | _ => alone n

/-- The cells that a character adds in front of its neighbour, and what it is to the next one. An
indicator behind the joiner counts alone; a second one makes a flag of both, a third one stands
apart again. -/
def add (n : Nat) : Neighbour → Int × Neighbour
  | .plain | .joinedKeycap => alone n
  | .ligature part =>
    match part.extend? n with
    | some (cells, rest) => (cells, ofLigature? rest)
    | none => alone n
  | .emoji => if n = zeroWidthJoiner then (0, .joiner) else alone n
  | .skinTone =>
    if takesSkinTone n then (0, .emoji)
    else if n = zeroWidthJoiner then (0, .joiner)
    else alone n
  | .indicator => if isRegionalIndicator n then (1, .indicators) else alone n
  | .indicators =>
    if isRegionalIndicator n then (1, .indicators)
    else if n = zeroWidthJoiner then (0, .joiner)
    else alone n
  | .joiner =>
    if n = enclosingKeycap then (0, .joinedKeycap)
    else if isRegionalIndicator n then (1, .joinedIndicator)
    else if isSkinTone n then (0, .skinTone)
    else if n = tagEnd then (0, .tagLetters 0)
    else if isEmoji n then (0, .emoji)
    else alone n
  | .joinedIndicator =>
    if isRegionalIndicator n then (-1, .joinedIndicators true) else alone n
  | .joinedIndicators isEven =>
    if isRegionalIndicator n then (if isEven then 3 else -1, .joinedIndicators (!isEven))
    else if n = zeroWidthJoiner then (0, .joiner)
    else alone n
  | .tagLetters count => addTag n (.tagLetters count)
  | .tagDigits count => addTag n (.tagDigits count)

def isJoined : Neighbour → Bool
  | .joiner | .joinedKeycap => true
  | _ => false

/-- Of what stands behind a selector, a character that does not take the selector sees the end of a
ligature only. -/
def pastSelector : Neighbour → Neighbour
  | .ligature part => .ligature part
  | _ => .plain

def behind (selector : Selector) (neighbour : Neighbour) : Neighbour :=
  if selector = .emoji ∧ neighbour.isJoined then neighbour else neighbour.pastSelector

end Neighbour

def isCurlyQuote (n : Nat) : Bool :=
  covers [(0x2018, 0x2019), (0x201c, 0x201d)] n

/-- All that the next character has to know: the selector right behind it, if there is one, and
what stands behind that. -/
structure Context where
  selector : Option Selector
  neighbour : Neighbour
  deriving DecidableEq, Repr

namespace Context

def plain : Context := ⟨none, .plain⟩

def addUnselected (n : Nat) (neighbour : Neighbour) : Int × Context :=
  match Selector.ofChar? n with
  | some selector => (0, ⟨some selector, neighbour.behind selector⟩)
  | none =>
    let (cells, neighbour) := neighbour.add n
    (cells, ⟨none, neighbour⟩)

/-- The cells that a character adds in its context: an emoji form two unless it is a member of the
emoji behind it, a text form one, and a fullwidth quotation mark two. -/
def add (n : Nat) : Context → Int × Context
  | ⟨none, neighbour⟩ => addUnselected n neighbour
  | ⟨some .emoji, neighbour⟩ =>
    if isSelectable n then (if neighbour.isJoined then 0 else 2, ⟨none, .emoji⟩)
    else addUnselected n neighbour.pastSelector
  | ⟨some .text, neighbour⟩ =>
    if hasNarrowForm n then (1, plain) else addUnselected n neighbour.pastSelector
  | ⟨some .quotation, neighbour⟩ =>
    if isCurlyQuote n then (2, plain) else addUnselected n neighbour.pastSelector

end Context

def measure (text : List Char) : Int × Context :=
  text.foldr (fun c (total, context) =>
    let (cells, context) := context.add c.toNat
    (total + cells, context)) (0, Context.plain)

/-- The cells of a text. A negative share only ever takes back a cell that the characters behind it
have added. -/
def textWidth (text : List Char) : Nat := (measure text).1.toNat

end FieldQuery.Unicode
