import FieldQuery.Proofs.Json.Nesting
import FieldQuery.Proofs.Node.Document
set_option autoImplicit false

namespace FieldQuery

theorem exists_of_bind_eq_ok {ε α β : Type} {x : Except ε α} {f : α → Except ε β} {b : β}
    (h : x >>= f = .ok b) : ∃ a, x = .ok a ∧ f a = .ok b := by
  cases x with
  | error e => cases h
  | ok a => exact ⟨a, rfl, h⟩

namespace Node

@[simp] theorem nesting_toJson_comparison (key value : Text) :
    (comparison key value).toJson.nesting = 1 := rfl

@[simp] theorem nesting_toJson_logical (op : Op) (children : List Node) :
    (logical op children).toJson.nesting = (Json.array (toJsons children)).nesting + 1 := by
  simp [toJson, Json.nesting, Json.nestingOfFields]

@[simp] theorem nesting_toJson_negation (child : Node) :
    (negation child).toJson.nesting = child.toJson.nesting + 1 := by
  simp [toJson, Json.nesting, Json.nestingOfFields]

/-- What holds of a tree that is read from a document of a given depth. -/
structure ReadFrom (depth : Nat) (node : Node) : Prop where
  sayable : node.Everywhere Sayable
  nesting_le : node.toJson.nesting ≤ depth

structure AllReadFrom (depth : Nat) (nodes : List Node) : Prop where
  sayable : EverywhereIn Sayable nodes
  nesting_le : (Json.array (toJsons nodes)).nesting ≤ depth

theorem readFrom_comparisonOf {depth : Nat} {keys values : List Json} {node : Node}
    (h : comparisonOf keys values = .ok node) : ReadFrom (depth + 1) node := by
  unfold comparisonOf at h
  split at h
  · next key value =>
    split at h
    · cases h
    · next hne =>
      obtain rfl := Except.ok.inj h
      exact ⟨⟨trivial, not_or.1 hne⟩, Nat.le_add_left _ _⟩
  · cases h

theorem readFrom_logicalOf {depth : Nat} {op : Op} {children : List Node} {node : Node}
    (hc : AllReadFrom depth children) (h : logicalOf op children = .ok node) :
    ReadFrom (depth + 1) node := by
  unfold logicalOf at h
  split at h
  · cases h
  · next hne =>
    obtain rfl := Except.ok.inj h
    refine ⟨⟨⟨hne, trivial⟩, hc.sayable⟩, ?_⟩
    rw [nesting_toJson_logical]
    exact Nat.succ_le_succ hc.nesting_le

theorem ReadFrom.negation {depth : Nat} {child : Node} (h : ReadFrom depth child) :
    ReadFrom (depth + 1) (.negation child) := by
  refine ⟨⟨⟨trivial, trivial⟩, h.sayable⟩, ?_⟩
  rw [nesting_toJson_negation]
  exact Nat.succ_le_succ h.nesting_le

mutual

theorem readFrom_ofJsonAt : (document : Json) → ∀ {nested : Bool} {depth : Nat} {node : Node},
    document.nesting ≤ depth → ofJsonAt nested document = .ok node → ReadFrom depth node
  | .object fields, nested, depth + 1, node, hd, h => by
    have hfields : Json.nestingOfFields fields ≤ depth := Nat.le_of_succ_le_succ hd
    rw [ofJsonAt] at h
    obtain ⟨operator, -, h⟩ := exists_of_bind_eq_ok h
    cases operator with
    | comparison => exact readFrom_comparisonOf h
    | logical op =>
      obtain ⟨children, hc, h⟩ := exists_of_bind_eq_ok h
      exact readFrom_logicalOf (readFrom_childrenIn fields hfields (by simp) hc) h
    | negation =>
      obtain ⟨child, hc, h⟩ := exists_of_bind_eq_ok h
      obtain rfl := Except.ok.inj h
      exact (readFrom_childIn fields hfields (by simp) hc).negation
  | .array [], nested, depth, node, _, h => by simp [ofJsonAt] at h
  | .array (first :: rest), nested, depth + 1, node, hd, h => by
    have hrest : Json.nestingOfItems rest ≤ depth := (Nat.max_le.1 (Nat.le_of_succ_le_succ hd)).2
    rw [ofJsonAt] at h
    split at h
    · cases h
    · exact readFrom_comparisonOf h
    · obtain ⟨children, hc, h⟩ := exists_of_bind_eq_ok h
      exact readFrom_logicalOf (readFrom_onlyChildren rest hrest hc) h
    · obtain ⟨child, hc, h⟩ := exists_of_bind_eq_ok h
      obtain rfl := Except.ok.inj h
      exact (readFrom_onlyChild rest hrest hc).negation
  | .null, nested, depth, node, _, h => by simp [ofJsonAt] at h
  | .bool _, nested, depth, node, _, h => by simp [ofJsonAt] at h
  | .number _, nested, depth, node, _, h => by simp [ofJsonAt] at h
  | .string _, nested, depth, node, _, h => by simp [ofJsonAt] at h

theorem readFrom_ofJsonList : (items : List Json) → ∀ {depth : Nat} {nodes : List Node},
    Json.nestingOfItems items ≤ depth → ofJsonList items = .ok nodes →
    AllReadFrom (depth + 1) nodes
  | [], depth, nodes, _, h => by
    rw [ofJsonList] at h
    exact Except.ok.inj h ▸ ⟨trivial, Nat.le_add_left _ _⟩
  | item :: items, depth, nodes, hd, h => by
    rw [ofJsonList] at h
    obtain ⟨node, hn, h⟩ := exists_of_bind_eq_ok h
    obtain ⟨others, ho, h⟩ := exists_of_bind_eq_ok h
    obtain rfl := Except.ok.inj h
    have hnode := readFrom_ofJsonAt item (Nat.max_le.1 hd).1 hn
    have hothers := readFrom_ofJsonList items (Nat.max_le.1 hd).2 ho
    have hle := Nat.max_le.2 ⟨hnode.nesting_le, Nat.le_of_succ_le_succ hothers.nesting_le⟩
    exact ⟨⟨hnode.sayable, hothers.sayable⟩, Nat.succ_le_succ hle⟩

theorem readFrom_ofJsonArray : (value : Json) → ∀ {depth : Nat} {nodes : List Node},
    value.nesting ≤ depth → ofJsonArray value = .ok nodes → AllReadFrom depth nodes
  | .array items, depth + 1, nodes, hd, h => by
    rw [ofJsonArray] at h
    exact readFrom_ofJsonList items (Nat.le_of_succ_le_succ hd) h
  | .object _, depth, nodes, _, h => by simp [ofJsonArray] at h
  | .null, depth, nodes, _, h => by simp [ofJsonArray] at h
  | .bool _, depth, nodes, _, h => by simp [ofJsonArray] at h
  | .number _, depth, nodes, _, h => by simp [ofJsonArray] at h
  | .string _, depth, nodes, _, h => by simp [ofJsonArray] at h

theorem readFrom_childrenIn : (fields : List (Text × Json)) → ∀ {seen : Option (List Node)}
    {depth : Nat} {nodes : List Node}, Json.nestingOfFields fields ≤ depth →
    (∀ ns ∈ seen, AllReadFrom depth ns) →
    childrenIn seen fields = .ok nodes → AllReadFrom depth nodes
  | [], some children, depth, nodes, _, hs, h => by
    rw [childrenIn] at h
    exact Except.ok.inj h ▸ hs children rfl
  | [], none, depth, nodes, _, _, h => by simp [childrenIn] at h
  | (key, value) :: fields, seen, depth, nodes, hd, hs, h => by
    obtain ⟨hvalue, hfields⟩ := Nat.max_le.1 hd
    rw [childrenIn] at h
    split at h
    · split at h
      · cases h
      · obtain ⟨children, hc, h⟩ := exists_of_bind_eq_ok h
        have hchildren := readFrom_ofJsonArray value hvalue hc
        exact readFrom_childrenIn fields hfields (by simpa using hchildren) h
    · exact readFrom_childrenIn fields hfields hs h

theorem readFrom_childIn : (fields : List (Text × Json)) → ∀ {seen : Option Node}
    {depth : Nat} {node : Node}, Json.nestingOfFields fields ≤ depth →
    (∀ n ∈ seen, ReadFrom depth n) → childIn seen fields = .ok node → ReadFrom depth node
  | [], some child, depth, node, _, hs, h => by
    rw [childIn] at h
    exact Except.ok.inj h ▸ hs child rfl
  | [], none, depth, node, _, _, h => by simp [childIn] at h
  | (key, value) :: fields, seen, depth, node, hd, hs, h => by
    obtain ⟨hvalue, hfields⟩ := Nat.max_le.1 hd
    rw [childIn] at h
    split at h
    · split at h
      · cases h
      · obtain ⟨child, hc, h⟩ := exists_of_bind_eq_ok h
        have hchild := readFrom_ofJsonAt value hvalue hc
        exact readFrom_childIn fields hfields (by simpa using hchild) h
    · exact readFrom_childIn fields hfields hs h

theorem readFrom_onlyChildren : (values : List Json) → ∀ {depth : Nat} {nodes : List Node},
    Json.nestingOfItems values ≤ depth → onlyChildren values = .ok nodes → AllReadFrom depth nodes
  | [], depth, nodes, _, h => by simp [onlyChildren] at h
  | value :: rest, depth, nodes, hd, h => by
    rw [onlyChildren] at h
    obtain ⟨children, hc, h⟩ := exists_of_bind_eq_ok h
    split at h
    · exact Except.ok.inj h ▸ readFrom_ofJsonArray value (Nat.max_le.1 hd).1 hc
    · cases h

theorem readFrom_onlyChild : (values : List Json) → ∀ {depth : Nat} {node : Node},
    Json.nestingOfItems values ≤ depth → onlyChild values = .ok node → ReadFrom depth node
  | [], depth, node, _, h => by simp [onlyChild] at h
  | value :: rest, depth, node, hd, h => by
    rw [onlyChild] at h
    obtain ⟨child, hc, h⟩ := exists_of_bind_eq_ok h
    split at h
    · exact Except.ok.inj h ▸ readFrom_ofJsonAt value (Nat.max_le.1 hd).1 hc
    · cases h

end

theorem readFrom_ofJson {document : Json} {node : Node} (h : ofJson document = .ok node) :
    ReadFrom document.nesting node :=
  readFrom_ofJsonAt document (Nat.le_refl _) h

theorem ofJsonAt_toJson_of_sayable (nested : Bool) {node : Node} (h : node.Everywhere Sayable) :
    ofJsonAt nested node.toJson = .ok node :=
  ofJsonAt_toJson nested node (Everywhere.imp (fun _ hs => hs.1) node h)
    (Everywhere.imp (fun _ hs => hs.2) node h)

theorem exists_ofJson_iff (node : Node) :
    (∃ document, ofJson document = .ok node) ↔ node.Everywhere Sayable := by
  constructor
  · rintro ⟨document, h⟩
    exact (readFrom_ofJson h).sayable
  · intro h
    exact ⟨node.toJson, ofJsonAt_toJson_of_sayable false h⟩

end Node

end FieldQuery
