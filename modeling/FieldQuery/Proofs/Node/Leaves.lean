import FieldQuery.Node
set_option autoImplicit false

namespace FieldQuery.Node

mutual

def leaves : Node → List (Text × Text)
  | .comparison key value => [(key, value)]
  | .logical _ children => leavesIn children
  | .negation child => child.leaves

def leavesIn : List Node → List (Text × Text)
  | [] => []
  | node :: nodes => node.leaves ++ leavesIn nodes

end

mutual

theorem length_leaves : (node : Node) → node.leaves.length = node.comparisonCount
  | .comparison .. => rfl
  | .logical _ children => length_leavesIn children
  | .negation child => length_leaves child

theorem length_leavesIn : (nodes : List Node) → (leavesIn nodes).length = comparisonCounts nodes
  | [] => rfl
  | node :: nodes => by
    rw [leavesIn, comparisonCounts, List.length_append, length_leaves node, length_leavesIn nodes]

end

theorem comparisonCounts_append (front back : List Node) :
    comparisonCounts (front ++ back) = comparisonCounts front + comparisonCounts back := by
  induction front with
  | nil => simp [comparisonCounts]
  | cons node front ih =>
    simp only [List.cons_append, comparisonCounts, ih]
    omega

mutual

/-- The comparisons, each with the number of negations above it, counted on from those above the
tree itself. -/
def leavesUnder (negations : Nat) : Node → List ((Text × Text) × Nat)
  | .comparison key value => [((key, value), negations)]
  | .logical _ children => leavesUnderIn negations children
  | .negation child => child.leavesUnder (negations + 1)

def leavesUnderIn (negations : Nat) : List Node → List ((Text × Text) × Nat)
  | [] => []
  | node :: nodes => node.leavesUnder negations ++ leavesUnderIn negations nodes

end

mutual

theorem map_fst_leavesUnder (negations : Nat) :
    (node : Node) → (node.leavesUnder negations).map Prod.fst = node.leaves
  | .comparison .. => rfl
  | .logical _ children => map_fst_leavesUnderIn negations children
  | .negation child => map_fst_leavesUnder (negations + 1) child

theorem map_fst_leavesUnderIn (negations : Nat) :
    (nodes : List Node) → (leavesUnderIn negations nodes).map Prod.fst = leavesIn nodes
  | [] => rfl
  | node :: nodes => by
    rw [leavesUnderIn, leavesIn, List.map_append, map_fst_leavesUnder negations node,
      map_fst_leavesUnderIn negations nodes]

end

theorem leavesUnderIn_append (negations : Nat) (front back : List Node) :
    leavesUnderIn negations (front ++ back) =
      leavesUnderIn negations front ++ leavesUnderIn negations back := by
  induction front with
  | nil => rfl
  | cons node front ih => simp [leavesUnderIn, ih]

end FieldQuery.Node
