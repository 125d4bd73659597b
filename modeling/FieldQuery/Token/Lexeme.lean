import FieldQuery.Token
import FieldQuery.Token.Escape
import FieldQuery.Unicode.Alphanumeric
set_option autoImplicit false

namespace FieldQuery

/-- A lexical unit as it is written (`span`) and as it is meant (`text`). -/
structure Lexeme where
  kind : Kind
  text : Text
  span : Text
  deriving DecidableEq, Repr

def isWordChar (c : Char) : Bool := Unicode.isAlphanumeric c || c = '_'

namespace Lexeme

def verbatim (kind : Kind) (span : Text) : Lexeme := ⟨kind, span, span⟩

/-- Splits after the quote that closes a quoted piece. A backslash keeps the character behind it
from closing the piece. -/
def splitQuoted : Text → Option (Text × Text)
  | [] => none
  | ['\\'] => none
  | '\\' :: c :: rest => (splitQuoted rest).map fun (body, rest) => ('\\' :: c :: body, rest)
  | '"' :: rest => some ([], rest)
  | c :: rest => (splitQuoted rest).map fun (body, rest) => (c :: body, rest)

def quoted? (afterQuote : Text) : Option (Lexeme × Text) :=
  match splitQuoted afterQuote with
  | some (c :: body, rest) =>
    some (⟨.text, Token.unescape (c :: body), '"' :: c :: body ++ ['"']⟩, rest)
  | _ => none

def run (kind : Kind) (p : Char → Bool) (text : Text) : Lexeme × Text :=
  (verbatim kind (text.takeWhile p), text.dropWhile p)

def first? : Text → Option (Lexeme × Text)
  | [] => none
  | '(' :: rest => some (verbatim .openGroup ['('], rest)
  | ')' :: rest => some (verbatim .closeGroup [')'], rest)
  | 'A' :: 'N' :: 'D' :: rest => some (verbatim .logicalOperator ['A', 'N', 'D'], rest)
  | 'O' :: 'R' :: rest => some (verbatim .logicalOperator ['O', 'R'], rest)
  | 'N' :: 'O' :: 'T' :: rest => some (verbatim .negator ['N', 'O', 'T'], rest)
  | ':' :: rest => some (verbatim .comparator [':'], rest)
  | '"' :: rest => quoted? rest
  | c :: rest =>
    if Unicode.isWhitespace c then some (run .whitespace Unicode.isWhitespace (c :: rest))
    else if isWordChar c then some (run .text isWordChar (c :: rest))
    else none

end Lexeme

end FieldQuery
