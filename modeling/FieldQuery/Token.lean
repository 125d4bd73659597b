import FieldQuery.Text
set_option autoImplicit false

namespace FieldQuery

inductive Kind where
  | text | whitespace | openGroup | closeGroup | logicalOperator | negator | comparator
  deriving DecidableEq, Repr

namespace Kind

def name : Kind → Text
  | .text => "Text".toList
  | .whitespace => "Whitespace".toList
  | .openGroup => "OpenGroup".toList
  | .closeGroup => "CloseGroup".toList
  | .logicalOperator => "LogicalOperator".toList
  | .negator => "Negator".toList
  | .comparator => "Comparator".toList

def all : List Kind :=
  [.text, .whitespace, .openGroup, .closeGroup, .logicalOperator, .negator, .comparator]

end Kind

/-- The text is decoded: a quoted piece loses its quotes and escapes. The column is the number of
characters in front of the token. -/
structure Token where
  kind : Kind
  text : Text
  column : Nat
  deriving DecidableEq, Repr

end FieldQuery
