import FieldQuery.Node
import FieldQuery.Text.Quoted
set_option autoImplicit false

namespace FieldQuery

def Op.title : Op → Text
  | .and => "And".toList
  | .or => "Or".toList

namespace Node

def indent (level : Nat) : Text := List.replicate (2 * level) ' '

def outlineLine (level : Nat) (line : Text) : Text := indent level ++ line ++ ['\n']

mutual

def outlineAt (level : Nat) : Node → Text
  | .comparison key value =>
    outlineLine level ("Comparison(".toList ++ key.quoted ++ ", ".toList ++ value.quoted ++ [')'])
  | .logical op children => outlineLine level op.title ++ outlinesAt (level + 1) children
  | .negation child => outlineLine level "Not".toList ++ outlineAt (level + 1) child

def outlinesAt (level : Nat) : List Node → Text
  | [] => []
  | node :: nodes => outlineAt level node ++ outlinesAt level nodes

end

def outline (node : Node) : Text := outlineAt 0 node

end Node

end FieldQuery
