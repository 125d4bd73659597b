import FieldQuery.Node
set_option autoImplicit false

namespace FieldQuery

def Op.apply : Op → Bool → Bool → Bool
  | .and, a, b => a && b
  | .or, a, b => a || b

namespace Node

variable (facts : Text → Text → Bool)

mutual

def truth : Node → Bool
  | .comparison key value => facts key value
  | .logical .and children => allTrue children
  | .logical .or children => anyTrue children
  | .negation child => !child.truth

def allTrue : List Node → Bool
  | [] => true
  | node :: nodes => node.truth && allTrue nodes

def anyTrue : List Node → Bool
  | [] => false
  | node :: nodes => node.truth || anyTrue nodes

end

theorem allTrue_eq_all (nodes : List Node) : allTrue facts nodes = nodes.all (truth facts) := by
  induction nodes with
  | nil => rfl
  | cons node nodes ih => rw [allTrue, ih, List.all_cons]

theorem anyTrue_eq_any (nodes : List Node) : anyTrue facts nodes = nodes.any (truth facts) := by
  induction nodes with
  | nil => rfl
  | cons node nodes ih => rw [anyTrue, ih, List.any_cons]

theorem truth_logical_singleton (op : Op) (child : Node) :
    (logical op [child]).truth facts = child.truth facts := by
  cases op <;> simp [truth, allTrue, anyTrue]

theorem truth_logical_append (op : Op) (children : List Node) (child : Node) :
    (logical op (children ++ [child])).truth facts =
      op.apply ((logical op children).truth facts) (child.truth facts) := by
  cases op with
  | and => simp [truth, allTrue_eq_all, Op.apply]
  | or => simp [truth, anyTrue_eq_any, Op.apply]

end Node

end FieldQuery
