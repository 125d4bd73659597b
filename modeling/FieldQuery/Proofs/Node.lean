import FieldQuery.Node
import FieldQuery.QueryError
set_option autoImplicit false

namespace FieldQuery.Node

mutual

def height : Node → Nat
  | .comparison .. => 1
  | .logical _ children => heights children + 1
  | .negation child => child.height + 1

def heights : List Node → Nat
  | [] => 0
  | node :: nodes => max node.height (heights nodes)

end

@[simp] theorem heights_append (front back : List Node) :
    heights (front ++ back) = max (heights front) (heights back) := by
  induction front with
  | nil => simp [heights]
  | cons node front ih => simp [heights, ih, Nat.max_assoc]

theorem height_pos (node : Node) : 1 ≤ node.height := by
  cases node <;> simp [height]

theorem heights_pos {nodes : List Node} (h : nodes ≠ []) : 1 ≤ heights nodes := by
  cases nodes with
  | nil => exact absurd rfl h
  | cons node nodes => exact Nat.le_trans node.height_pos (Nat.le_max_left _ _)

mutual

def Everywhere (P : Node → Prop) : Node → Prop
  | .comparison key value => P (.comparison key value)
  | .logical op children => P (.logical op children) ∧ EverywhereIn P children
  | .negation child => P (.negation child) ∧ child.Everywhere P

def EverywhereIn (P : Node → Prop) : List Node → Prop
  | [] => True
  | node :: nodes => node.Everywhere P ∧ EverywhereIn P nodes

end

variable {P Q : Node → Prop}

theorem everywhereIn_append {front back : List Node} :
    EverywhereIn P (front ++ back) ↔ EverywhereIn P front ∧ EverywhereIn P back := by
  induction front with
  | nil => simp [EverywhereIn]
  | cons node front ih => simp [EverywhereIn, ih, and_assoc]

mutual

theorem Everywhere.imp (h : ∀ node, P node → Q node) :
    (node : Node) → node.Everywhere P → node.Everywhere Q
  | .comparison .., hp => h _ hp
  | .logical _ children, hp => ⟨h _ hp.1, EverywhereIn.imp h children hp.2⟩
  | .negation child, hp => ⟨h _ hp.1, Everywhere.imp h child hp.2⟩

theorem EverywhereIn.imp (h : ∀ node, P node → Q node) :
    (nodes : List Node) → EverywhereIn P nodes → EverywhereIn Q nodes
  | [], _ => trivial
  | node :: nodes, hp => ⟨Everywhere.imp h node hp.1, EverywhereIn.imp h nodes hp.2⟩

end

mutual

theorem Everywhere.and : (node : Node) → node.Everywhere P → node.Everywhere Q →
    node.Everywhere fun node => P node ∧ Q node
  | .comparison .., hp, hq => ⟨hp, hq⟩
  | .logical _ children, hp, hq => ⟨⟨hp.1, hq.1⟩, EverywhereIn.and children hp.2 hq.2⟩
  | .negation child, hp, hq => ⟨⟨hp.1, hq.1⟩, Everywhere.and child hp.2 hq.2⟩

theorem EverywhereIn.and : (nodes : List Node) → EverywhereIn P nodes → EverywhereIn Q nodes →
    EverywhereIn (fun node => P node ∧ Q node) nodes
  | [], _, _ => trivial
  | node :: nodes, hp, hq => ⟨Everywhere.and node hp.1 hq.1, EverywhereIn.and nodes hp.2 hq.2⟩

end

def IsLogical : Node → Prop
  | .logical .. => True
  | .comparison .. => False
  | .negation _ => False

instance : DecidablePred IsLogical
  | .logical .. => .isTrue trivial
  | .comparison .. => .isFalse id
  | .negation _ => .isFalse id

def IsNegation : Node → Prop
  | .negation _ => True
  | .comparison .. => False
  | .logical .. => False

instance : DecidablePred IsNegation
  | .negation _ => .isTrue trivial
  | .comparison .. => .isFalse id
  | .logical .. => .isFalse id

@[simp] theorem not_isLogical_comparison (key value : Text) : ¬ (comparison key value).IsLogical :=
  id

@[simp] theorem isLogical_logical (op : Op) (children : List Node) :
    (logical op children).IsLogical :=
  trivial

@[simp] theorem not_isLogical_negation (child : Node) : ¬ (negation child).IsLogical := id

@[simp] theorem not_isNegation_comparison (key value : Text) :
    ¬ (comparison key value).IsNegation :=
  id

@[simp] theorem isNegation_negation (child : Node) : (negation child).IsNegation := trivial

@[simp] theorem not_isNegation_logical (op : Op) (children : List Node) :
    ¬ (logical op children).IsNegation :=
  id

def HasChildren : Node → Prop
  | .logical _ children => children ≠ []
  | .comparison .. => True
  | .negation _ => True

/-- A disjunction has two children, and no negation is negated. -/
def Settled : Node → Prop
  | .logical op children => op = .or → 2 ≤ children.length
  | .negation child => ¬ child.IsNegation
  | .comparison .. => True

def HasTexts : Node → Prop
  | .comparison key value => key ≠ [] ∧ value ≠ []
  | .logical .. => True
  | .negation _ => True

/-- What a query can say: no group is empty and no text is. -/
def Sayable (node : Node) : Prop := node.HasChildren ∧ node.HasTexts

/-- What holds of every tree that is read from tokens, whatever their texts are. -/
structure WellFormed (node : Node) : Prop where
  root : node.IsLogical
  hasChildren : node.Everywhere HasChildren
  settled : node.Everywhere Settled
  height_le : node.height ≤ maxDepth

structure Canonical (node : Node) : Prop where
  root : node.IsLogical
  hasChildren : node.Everywhere HasChildren
  settled : node.Everywhere Settled
  hasTexts : node.Everywhere HasTexts
  height_le : node.height ≤ maxDepth

theorem WellFormed.canonical {node : Node} (h : node.WellFormed) (ht : node.Everywhere HasTexts) :
    node.Canonical :=
  ⟨h.root, h.hasChildren, h.settled, ht, h.height_le⟩

end FieldQuery.Node
