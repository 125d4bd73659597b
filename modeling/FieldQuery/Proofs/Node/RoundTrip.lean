import FieldQuery.Proofs.Node.Reread
import FieldQuery.Proofs.Parser.WellFormed
set_option autoImplicit false

namespace FieldQuery

open Node

namespace Node

theorem guarded_of_not_isNegation {node : Node} (h : ¬ node.IsNegation) : node.guarded = node := by
  cases node with
  | comparison key value => rfl
  | logical op children => rfl
  | negation child => exact absurd trivial h

mutual

theorem reread_of_settled : (node : Node) → node.Everywhere Settled → node.reread = node
  | .comparison .., _ => rfl
  | .logical op children, h => by
    have hop : (if children.length = 1 then .and else op) = op := by
      cases op with
      | and => simp
      | or =>
        -- Only a disjunction can lose its operator, and a settled one has two children.
        have hl := h.1 rfl
        rw [if_neg (by omega)]
    rw [reread, rereads_of_settled children h.2, hop]
  | .negation child, h => by
    rw [reread, reread_of_settled child h.2, guarded_of_not_isNegation h.1]

theorem rereads_of_settled : (nodes : List Node) → EverywhereIn Settled nodes →
    rereads nodes = nodes
  | [], _ => rfl
  | node :: nodes, h => by
    rw [rereads, reread_of_settled node h.1, rereads_of_settled nodes h.2]

end

theorem rerooted_of_canonical {node : Node} (h : node.Canonical) : node.rerooted = node :=
  (rerooted_of_isLogical h.root).trans (reread_of_settled node h.settled)

theorem parse_query_of_canonical {node : Node} (h : node.Canonical) :
    parse node.query = .ok node := by
  have hr := rerooted_of_canonical h
  have hs : node.Everywhere Sayable := Everywhere.and node h.hasChildren h.hasTexts
  have hh : node.rerooted.height ≤ maxDepth := by
    rw [hr]
    exact h.height_le
  rw [parse_query_of_height_le hs hh, hr]

theorem parse_query_of_parse {query : Text} {node : Node} (h : parse query = .ok node) :
    parse node.query = .ok node :=
  parse_query_of_canonical (canonical_of_parse h)

theorem parse_query_iff_canonical (node : Node) :
    parse node.query = .ok node ↔ node.Canonical :=
  ⟨canonical_of_parse, parse_query_of_canonical⟩

end Node

end FieldQuery
