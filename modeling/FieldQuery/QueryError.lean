import FieldQuery.Token
set_option autoImplicit false

namespace FieldQuery

/-- The tallest tree that is built, counted in nodes from the root to a leaf. -/
def maxDepth : Nat := 256

inductive Fault where
  | unexpected (kind : Kind)
  | unexpectedAmong (kind : Kind) (wanted : List Kind)
  | missingOperand (kind : Kind)
  | expected (wanted received : Kind)
  | expectedAtEnd (wanted : Kind)
  | unknownOperator (text : Text)
  | tooManyClosed
  | emptyGroup
  | tooDeep
  | endAfterNegator (wanted : List Kind)
  | endAfterOperator
  | unclosed
  | emptyQuery
  /-- A rule of the caller's, in the caller's words. -/
  | worded (message : Text)
  deriving DecidableEq, Repr

namespace Fault

def kindList (kinds : List Kind) : Text :=
  [',', ' '].intercalate (kinds.map Kind.name)

def message : Fault → Text
  | .unexpected kind => "Unexpected token [".toList ++ kind.name ++ "].".toList
  | .unexpectedAmong kind wanted =>
    "Unexpected token [".toList ++ kind.name ++ "]. Expected [".toList ++ kindList wanted
      ++ "].".toList
  | .missingOperand kind =>
    "Unexpected token [".toList ++ kind.name ++ "]. Expected an operand before it.".toList
  | .expected wanted received =>
    "Expected [".toList ++ wanted.name ++ "] token, but received [".toList ++ received.name
      ++ "]".toList
  | .expectedAtEnd wanted =>
    "Expected [".toList ++ wanted.name ++ "] token, but reached the end of text".toList
  | .unknownOperator text => "Unknown logical operator [".toList ++ text ++ "]".toList
  | .tooManyClosed => "There are too many closed parenthesis".toList
  | .emptyGroup => "Empty group".toList
  | .tooDeep =>
    "Query is nested too deeply (limit is ".toList ++ Text.decimal maxDepth ++ " levels)".toList
  | .endAfterNegator wanted =>
    "Unexpected end of text. Expected [".toList ++ kindList wanted ++ "].".toList
  | .endAfterOperator => "Unexpected end of text after a logical operator".toList
  | .unclosed => "There are unclosed parenthesis".toList
  | .emptyQuery => "Empty query".toList
  | .worded message => message

end Fault

/-- A recognition error carries the whole text that was being cut into tokens. -/
inductive QueryError where
  | recognition (text : Text) (offset : Nat)
  | semantic (fault : Fault) (column : Option Nat)
  deriving DecidableEq, Repr

namespace QueryError

def display : QueryError → Text
  | .recognition _ offset =>
    "Unrecognized character at column [".toList ++ Text.decimal offset ++ "]".toList
  | .semantic fault _ => "Semantic error: ".toList ++ fault.message

def message : QueryError → Text
  | .recognition text offset => (recognition text offset).display
  | .semantic fault _ => fault.message

def column : QueryError → Option Nat
  | .recognition _ offset => some offset
  | .semantic _ column => column

def isRecognition : QueryError → Bool
  | .recognition .. => true
  | .semantic .. => false

def source (query : Text) : QueryError → Text
  | .recognition text _ => text
  | .semantic .. => query

/-- The message, the query and a caret under the column. A column past the end of the query puts
the caret right behind it. -/
def withContext (query : Text) (error : QueryError) : Text :=
  let source := error.source query
  let caret := match error.column with
    | none => []
    | some column =>
      "\n  ".toList ++ List.replicate (min column source.length) ' ' ++ ['^']
  error.display ++ "\n  ".toList ++ source ++ caret

end QueryError

end FieldQuery
