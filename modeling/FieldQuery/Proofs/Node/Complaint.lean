import FieldQuery.Proofs.Node.Sayable
set_option autoImplicit false

namespace FieldQuery.Node

mutual

def bottomUp : Node → List Node
  | .comparison key value => [.comparison key value]
  | .logical op children => bottomUps children ++ [.logical op children]
  | .negation child => child.bottomUp ++ [.negation child]

def bottomUps : List Node → List Node
  | [] => []
  | node :: nodes => node.bottomUp ++ bottomUps nodes

end

theorem bottomUps_append (front back : List Node) :
    bottomUps (front ++ back) = bottomUps front ++ bottomUps back := by
  induction front with
  | nil => rfl
  | cons node front ih => simp [bottomUps, ih]

variable {P : Node → Prop}

mutual

theorem forall_mem_bottomUp : (node : Node) → ((∀ n ∈ node.bottomUp, P n) ↔ node.Everywhere P)
  | .comparison key value => by simp [bottomUp, Everywhere]
  | .logical op children => by
    simp [bottomUp, Everywhere, or_imp, forall_and, forall_mem_bottomUps children, and_comm]
  | .negation child => by
    simp [bottomUp, Everywhere, or_imp, forall_and, forall_mem_bottomUp child, and_comm]

theorem forall_mem_bottomUps : (nodes : List Node) →
    ((∀ n ∈ bottomUps nodes, P n) ↔ EverywhereIn P nodes)
  | [] => by simp [bottomUps, EverywhereIn]
  | node :: nodes => by
    simp [bottomUps, EverywhereIn, or_imp, forall_and, forall_mem_bottomUp node,
      forall_mem_bottomUps nodes]

end

def complaint? : Node → Option Text
  | .comparison key value =>
    if key = [] ∨ value = [] then some "comparison key and value must not be empty".toList
    else none
  | .logical op children =>
    if children = [] then some (op.name ++ " node has no children".toList) else none
  | .negation _ => none

theorem complaint?_eq_none_iff {node : Node} : node.complaint? = none ↔ node.Sayable := by
  cases node with
  | comparison key value =>
    simp only [complaint?, ite_eq_right_iff, reduceCtorEq, imp_false, not_or]
    simp [Sayable, HasChildren, HasTexts]
  | logical op children =>
    simp only [complaint?, ite_eq_right_iff, reduceCtorEq, imp_false]
    simp [Sayable, HasChildren, HasTexts]
  | negation child => simp [complaint?, Sayable, HasChildren, HasTexts]

def firstComplaint? (node : Node) : Option Text := node.bottomUp.findSome? complaint?

def firstComplaintIn? (nodes : List Node) : Option Text := (bottomUps nodes).findSome? complaint?

theorem firstComplaint?_eq_none_iff {node : Node} :
    node.firstComplaint? = none ↔ node.Everywhere Sayable := by
  rw [firstComplaint?, List.findSome?_eq_none_iff, ← forall_mem_bottomUp]
  simp only [complaint?_eq_none_iff]

theorem firstComplaintIn?_eq_none_iff {nodes : List Node} :
    firstComplaintIn? nodes = none ↔ EverywhereIn Sayable nodes := by
  rw [firstComplaintIn?, List.findSome?_eq_none_iff, ← forall_mem_bottomUps]
  simp only [complaint?_eq_none_iff]

def RefusedFor {α : Type} (message : Text) (answer : Except JsonFault α) : Prop :=
  ∃ fault, answer = .error fault ∧ fault.message? = some message

theorem RefusedFor.bind {α β : Type} {message : Text} {x : Except JsonFault α}
    (h : RefusedFor message x) (f : α → Except JsonFault β) : RefusedFor message (x >>= f) := by
  obtain ⟨fault, rfl, hm⟩ := h
  exact ⟨fault, rfl, hm⟩

theorem ofJsonList_toJsons_of_sayable {nodes : List Node} (h : EverywhereIn Sayable nodes) :
    ofJsonList (toJsons nodes) = .ok nodes :=
  ofJsonList_toJsons nodes (EverywhereIn.imp (fun _ hs => hs.1) nodes h)
    (EverywhereIn.imp (fun _ hs => hs.2) nodes h)

mutual

theorem refusedFor_toJson {message : Text} : (nested : Bool) → (node : Node) →
    node.firstComplaint? = some message → RefusedFor message (ofJsonAt nested node.toJson)
  | nested, .comparison key value, h => by
    rw [firstComplaint?, bottomUp, List.findSome?_singleton, complaint?] at h
    split at h
    · next hempty =>
      obtain rfl := Option.some.inj h
      rw [ofJsonAt_toJson_comparison]
      exact ⟨.emptyComparison, if_pos hempty, rfl⟩
    · cases h
  | nested, .logical op children, h => by
    rw [firstComplaint?, bottomUp, List.findSome?_append, List.findSome?_singleton] at h
    rw [ofJsonAt_toJson_logical]
    rcases Option.or_eq_some_iff.1 h with hc | ⟨hnone, hself⟩
    · exact (refusedFor_toJsons children hc).bind _
    · rw [ofJsonList_toJsons_of_sayable (firstComplaintIn?_eq_none_iff.1 hnone)]
      rw [complaint?] at hself
      split at hself
      · next hempty =>
        obtain rfl := Option.some.inj hself
        exact ⟨.noChildren op, if_pos hempty, rfl⟩
      · cases hself
  | nested, .negation child, h => by
    rw [firstComplaint?, bottomUp, List.findSome?_append, List.findSome?_singleton] at h
    rw [ofJsonAt_toJson_negation]
    rcases Option.or_eq_some_iff.1 h with hc | ⟨-, hself⟩
    · exact (refusedFor_toJson true child hc).bind _
    · cases hself

theorem refusedFor_toJsons {message : Text} : (nodes : List Node) →
    firstComplaintIn? nodes = some message → RefusedFor message (ofJsonList (toJsons nodes))
  | [], h => by cases h
  | node :: nodes, h => by
    rw [firstComplaintIn?, bottomUps, List.findSome?_append] at h
    rw [toJsons, ofJsonList]
    rcases Option.or_eq_some_iff.1 h with hc | ⟨hnone, hrest⟩
    · exact (refusedFor_toJson true node hc).bind _
    · rw [ofJsonAt_toJson_of_sayable true (firstComplaint?_eq_none_iff.1 hnone)]
      exact (refusedFor_toJsons nodes hrest).bind _

end

end FieldQuery.Node
