import FieldQuery.QueryError
import FieldQuery.Paint
set_option autoImplicit false

namespace FieldQuery.QueryError

def endsWithCaret (line : Text) : Bool := line.trimEnd.getLast? = some '^'

def reportLine (color : Bool) (line : Text) : Text :=
  if endsWithCaret line then painted color .error line else line

def report (color : Bool) (query : Text) (error : QueryError) : Text :=
  match (error.withContext query).lines with
  | [] => []
  | first :: rest =>
    painted color .error "error:".toList ++ [' '] ++ first
      ++ rest.flatMap fun line => '\n' :: reportLine color line

end FieldQuery.QueryError
