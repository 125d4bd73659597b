import FieldQuery.Node
import FieldQuery.Token.Lexeme
set_option autoImplicit false

/-! Trees written back as queries. A nested logical node gets parentheses, and so does a negation
under a negation, because `NOT` cannot follow `NOT`. -/

namespace FieldQuery

namespace Text

def startsWithKeyword (text : Text) : Bool :=
  ["AND".toList, "OR".toList, "NOT".toList].any (·.isPrefixOf text)

def isBare (text : Text) : Bool :=
  !text.isEmpty && !text.startsWithKeyword && text.all isWordChar

def escapeQuotes (text : Text) : Text :=
  text.flatMap fun c => if c = '"' ∨ c = '\\' then ['\\', c] else [c]

def asOperand (text : Text) : Text :=
  if text.isBare then text else ['"'] ++ text.escapeQuotes ++ ['"']

end Text

namespace Node

def parenthesized (text : Text) : Text := ['('] ++ text ++ [')']

def comparisonQuery (key value : Text) : Text := key.asOperand ++ [':'] ++ value.asOperand

mutual

def query : Node → Text
  | .comparison key value => comparisonQuery key value
  | .logical op children => ([' '] ++ op.keyword ++ [' ']).intercalate (operands children)
  | .negation child => "NOT ".toList ++ negand child

def operand : Node → Text
  | .comparison key value => comparisonQuery key value
  | .logical op children =>
    parenthesized (([' '] ++ op.keyword ++ [' ']).intercalate (operands children))
  | .negation child => "NOT ".toList ++ negand child

def operands : List Node → List Text
  | [] => []
  | node :: nodes => operand node :: operands nodes

def negand : Node → Text
  | .comparison key value => comparisonQuery key value
  | .logical op children =>
    parenthesized (([' '] ++ op.keyword ++ [' ']).intercalate (operands children))
  | .negation child => parenthesized ("NOT ".toList ++ negand child)

end

end Node

end FieldQuery
