import FieldQuery.Node.Json
import FieldQuery.Proofs.Node
set_option autoImplicit false

namespace FieldQuery.Node

theorem ofJsonAt_toJson_comparison (nested : Bool) (key value : Text) :
    ofJsonAt nested (comparison key value).toJson = comparisonOf [.string key] [.string value] := by
  rw [toJson, ofJsonAt]
  rfl

theorem ofJsonAt_toJson_logical (nested : Bool) (op : Op) (children : List Node) :
    ofJsonAt nested (logical op children).toJson =
      ofJsonList (toJsons children) >>= fun read => logicalOf op read := by
  rw [toJson, ofJsonAt]
  cases op <;> cases hc : ofJsonList (toJsons children) <;>
    simp [operatorOf, fieldValues, Operator.ofJson?, Operator.ofName?, Op.name, childrenIn,
      ofJsonArray, hc, bind, Except.bind]

theorem ofJsonAt_toJson_negation (nested : Bool) (child : Node) :
    ofJsonAt nested (negation child).toJson =
      ofJsonAt true child.toJson >>= fun read => .ok (.negation read) := by
  rw [toJson, ofJsonAt]
  cases hc : ofJsonAt true child.toJson <;>
    simp [operatorOf, fieldValues, Operator.ofJson?, Operator.ofName?, childIn, hc, bind,
      Except.bind, pure, Except.pure]

mutual

theorem ofJsonAt_toJson (nested : Bool) : (node : Node) → node.Everywhere HasChildren →
    node.Everywhere HasTexts → ofJsonAt nested node.toJson = .ok node
  | .comparison key value, _, ht => by
    have hk : key ≠ [] := ht.1
    have hv : value ≠ [] := ht.2
    rw [ofJsonAt_toJson_comparison]
    simp [comparisonOf, hk, hv]
  | .logical op children, hc, ht => by
    have hne : children ≠ [] := hc.1
    rw [ofJsonAt_toJson_logical, ofJsonList_toJsons children hc.2 ht.2]
    exact if_neg hne
  | .negation child, hc, ht => by
    rw [ofJsonAt_toJson_negation, ofJsonAt_toJson true child hc.2 ht.2]
    rfl

theorem ofJsonList_toJsons : (nodes : List Node) → EverywhereIn HasChildren nodes →
    EverywhereIn HasTexts nodes → ofJsonList (toJsons nodes) = .ok nodes
  | [], _, _ => rfl
  | node :: nodes, hc, ht => by
    rw [toJsons, ofJsonList, ofJsonAt_toJson true node hc.1 ht.1,
      ofJsonList_toJsons nodes hc.2 ht.2]
    rfl

end

theorem ofJson_toJson {node : Node} (hc : node.Everywhere HasChildren)
    (ht : node.Everywhere HasTexts) : ofJson node.toJson = .ok node :=
  ofJsonAt_toJson false node hc ht

end FieldQuery.Node
