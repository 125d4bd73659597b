import FieldQuery.Highlight
import FieldQuery.Node.Json
import FieldQuery.Node.Outline
import FieldQuery.Node.Query
import FieldQuery.Settings
set_option autoImplicit false

namespace FieldQuery.Node

def printed (format : Format) (isPretty highlighted : Bool) (node : Node) : Text :=
  match format with
  | .tree => node.outline
  | .query => node.query ++ ['\n']
  | .json =>
    let document := Json.write isPretty node.toJson ++ ['\n']
    if highlighted then Highlight.json document else document

end FieldQuery.Node
