import FieldQuery.Token
import FieldQuery.Json
import FieldQuery.Paint
import FieldQuery.Table
import FieldQuery.Text.Quoted
set_option autoImplicit false

namespace FieldQuery.Token

def shown (color : Bool) (t : Token) : Text :=
  match t.kind with
  | .logicalOperator => painted color .keyword t.text
  | .negator => painted color .keyword t.text
  | .text => painted color .value t.text
  | .whitespace => painted color .dim t.text.quoted
  | .openGroup => t.text
  | .closeGroup => t.text
  | .comparator => t.text

def tableHeader : Table.Row := ["Column".toList, "Kind".toList, "Text".toList]

def tableRow (color : Bool) (t : Token) : Table.Row :=
  [Text.decimal t.column, t.kind.name, t.shown color]

def table (color : Bool) (tokens : List Token) : Text :=
  Table.draw tableHeader (tokens.map (tableRow color))

def toJson (t : Token) : Json :=
  .object [("kind".toList, .string t.kind.name), ("text".toList, .string t.text),
    ("column".toList, .nat t.column)]

def listing (query : Text) (tokens : List Token) : Json :=
  .object [("query".toList, .string query), ("tokens".toList, .array (tokens.map toJson))]

end FieldQuery.Token
