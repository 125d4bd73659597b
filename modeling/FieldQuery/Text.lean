import FieldQuery.Unicode.Whitespace
set_option autoImplicit false

/-! Texts are lists of characters, so that columns and lengths count characters. This module holds
the ways of cutting a text that the rest of the library uses. -/

namespace FieldQuery

abbrev Text := List Char

namespace Text

def decimal (n : Nat) : Text := Nat.toDigits 10 n

/-- The parts between the separators; there is always one more part than there are separators. -/
def splitOn (sep : Char) : Text → List Text
  | [] => [[]]
  | c :: cs =>
    if c = sep then [] :: splitOn sep cs
    else match splitOn sep cs with
      | [] => [[c]]
      | part :: parts => (c :: part) :: parts

/-- The lines of a text, each with the newline that ends it. -/
def pieces : Text → List Text
  | [] => []
  | c :: cs =>
    if c = '\n' then [c] :: pieces cs
    else match pieces cs with
      | [] => [[c]]
      | piece :: rest => (c :: piece) :: rest

/-- A carriage return belongs to the line ending only in front of a newline. -/
def dropLineEnding (piece : Text) : Text :=
  match piece.reverse with
  | '\n' :: '\r' :: rest => rest.reverse
  | '\n' :: rest => rest.reverse
  | _ => piece

def lines (text : Text) : List Text :=
  text.pieces.map dropLineEnding

def trimStart (text : Text) : Text := text.dropWhile Unicode.isWhitespace

def trimEnd (text : Text) : Text := (trimStart text.reverse).reverse

def trim (text : Text) : Text := text.trimStart.trimEnd

def asciiLower (text : Text) : Text := text.map Char.toLower

end Text

end FieldQuery
