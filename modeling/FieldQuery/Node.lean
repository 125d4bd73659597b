import FieldQuery.QueryError
set_option autoImplicit false

namespace FieldQuery

inductive Op where
  | and | or
  deriving DecidableEq, Repr

namespace Op

def name : Op → Text
  | .and => "and".toList
  | .or => "or".toList

def keyword : Op → Text
  | .and => "AND".toList
  | .or => "OR".toList

def ofText? (text : Text) : Option Op :=
  if text.asciiLower = Op.and.name then some .and
  else if text.asciiLower = Op.or.name then some .or
  else none

def ofText (text : Text) : Except QueryError Op :=
  match ofText? text with
  | some op => .ok op
  | none => .error (.semantic (.unknownOperator text) none)

end Op

inductive Node where
  | comparison (key value : Text)
  | logical (op : Op) (children : List Node)
  | negation (child : Node)
  deriving Repr

namespace Node

def operator : Node → Text
  | .comparison .. => "comparison".toList
  | .logical op _ => op.name
  | .negation _ => "not".toList

def children : Node → List Node
  | .logical _ children => children
  | .comparison .. => []
  | .negation _ => []

mutual

def comparisonCount : Node → Nat
  | .comparison .. => 1
  | .logical _ children => comparisonCounts children
  | .negation child => child.comparisonCount

def comparisonCounts : List Node → Nat
  | [] => 0
  | node :: nodes => node.comparisonCount + comparisonCounts nodes

end

mutual

def decEq : (a b : Node) → Decidable (a = b)
  | .comparison k v, .comparison k' v' =>
    if h : k = k' ∧ v = v' then .isTrue (by simp [h]) else .isFalse (by simpa using h)
  | .logical op cs, .logical op' cs' =>
    if h : op = op' then
      match decEqs cs cs' with
      | .isTrue hs => .isTrue (by simp [h, hs])
      | .isFalse hs => .isFalse (by simp [hs])
    else .isFalse (by simp [h])
  | .negation c, .negation c' =>
    match decEq c c' with
    | .isTrue h => .isTrue (by simp [h])
    | .isFalse h => .isFalse (by simp [h])
  | .comparison .., .logical .. => .isFalse (by simp)
  | .comparison .., .negation _ => .isFalse (by simp)
  | .logical .., .comparison .. => .isFalse (by simp)
  | .logical .., .negation _ => .isFalse (by simp)
  | .negation _, .comparison .. => .isFalse (by simp)
  | .negation _, .logical .. => .isFalse (by simp)

def decEqs : (as bs : List Node) → Decidable (as = bs)
  | [], [] => .isTrue rfl
  | a :: as, b :: bs =>
    match decEq a b with
    | .isTrue h =>
      match decEqs as bs with
      | .isTrue hs => .isTrue (by simp [h, hs])
      | .isFalse hs => .isFalse (by simp [hs])
    | .isFalse h => .isFalse (by simp [h])
  | [], _ :: _ => .isFalse (by simp)
  | _ :: _, [] => .isFalse (by simp)

end

instance : DecidableEq Node := decEq

end Node

end FieldQuery
