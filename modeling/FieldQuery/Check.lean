import FieldQuery.Json
import FieldQuery.Parser
set_option autoImplicit false

namespace FieldQuery

structure Check where
  query : Text
  error : Option QueryError
  deriving DecidableEq, Repr

namespace Check

def ofQuery (query : Text) : Check :=
  match parse query with
  | .ok _ => ⟨query, none⟩
  | .error e => ⟨query, some e⟩

def isValid (c : Check) : Bool := c.error.isNone

/-- A valid query has no error field, and an error without a column has no column field. -/
def toJson (c : Check) : Json :=
  let fault := match c.error with
    | none => []
    | some e => ("error".toList, .string e.display)
        :: (e.column.toList.map fun column => ("column".toList, .nat column))
  .object ([("query".toList, .string c.query), ("valid".toList, .bool c.isValid)] ++ fault)

def listing (checks : List Check) : Json := .array (checks.map toJson)

end Check

end FieldQuery
