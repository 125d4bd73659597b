import FieldQuery.Proofs.Node.Leaves
import FieldQuery.Proofs.Node.Reread
import FieldQuery.Proofs.Node.Sayable
import FieldQuery.Proofs.Node.Truth
set_option autoImplicit false

namespace FieldQuery.Node

/-- What two trees have in common when one is the other read again. -/
structure Restates (again node : Node) : Prop where
  query_eq : again.query = node.query
  leaves_eq : again.leaves = node.leaves
  truth_eq : ∀ facts, again.truth facts = node.truth facts

section

variable {α : Type} {f : Node → α}

/-- A function of trees that gives a conjunction of one child the value of the child gives `guarded`
trees the value of the tree. -/
theorem apply_guarded (h : ∀ child, f (logical .and [child]) = f child) (node : Node) :
    f node.guarded = f node := by
  cases node with
  | comparison key value => rfl
  | logical op children => rfl
  | negation child => exact h (.negation child)

theorem apply_rerooted (h : ∀ child, f (logical .and [child]) = f child) (node : Node) :
    f node.rerooted = f node.reread := by
  by_cases hl : node.IsLogical
  · rw [rerooted_of_isLogical hl]
  · rw [rerooted_of_not_isLogical hl, h]

end

theorem query_logical_singleton (op : Op) (child : Node) :
    (logical op [child]).query = child.operand := by
  rw [query, intercalate_operands]
  simp [operands]

theorem operand_of_not_isLogical {node : Node} (h : ¬ node.IsLogical) :
    node.operand = node.query := by
  cases node with
  | comparison key value => rfl
  | logical op children => exact absurd trivial h
  | negation child => rfl

theorem negand_of_isNegation {node : Node} (h : node.IsNegation) :
    node.negand = parenthesized node.operand := by
  cases node with
  | comparison key value => exact absurd h id
  | logical op children => exact absurd h id
  | negation child => rfl

theorem negand_of_not_isNegation {node : Node} (h : ¬ node.IsNegation) :
    node.negand = node.operand := by
  cases node with
  | comparison key value => rfl
  | logical op children => rfl
  | negation child => exact absurd trivial h

theorem negand_congr {a b : Node} (ho : a.operand = b.operand)
    (hn : a.IsNegation ↔ b.IsNegation) : a.negand = b.negand := by
  by_cases h : a.IsNegation
  · rw [negand_of_isNegation h, negand_of_isNegation (hn.1 h), ho]
  · rw [negand_of_not_isNegation h, negand_of_not_isNegation (mt hn.2 h), ho]

theorem negand_guarded (node : Node) : node.guarded.negand = node.negand := by
  cases node with
  | comparison key value => rfl
  | logical op children => rfl
  | negation child => exact congrArg parenthesized (query_logical_singleton .and (.negation child))

theorem query_reread_logical (op : Op) {children : List Node}
    (h : operands (rereads children) = operands children) :
    (logical op children).reread.query = (logical op children).query := by
  by_cases hl : children.length = 1
  · obtain ⟨child, rfl⟩ := List.length_eq_one_iff.1 hl
    rw [reread, query_logical_singleton, if_pos hl, rereads, rereads, query_logical_singleton]
    exact (List.cons.inj h).1
  · rw [reread, if_neg hl, query, h, ← query]

mutual

theorem operand_reread : (node : Node) → node.reread.operand = node.operand
  | .comparison .. => rfl
  | .logical op children =>
    congrArg parenthesized (query_reread_logical op (operands_rereads children))
  | .negation child => by
    have hn := negand_congr (operand_reread child) isNegation_reread
    rw [reread, operand, negand_guarded, hn, operand]

theorem operands_rereads : (nodes : List Node) → operands (rereads nodes) = operands nodes
  | [] => rfl
  | node :: nodes => by
    rw [rereads, operands, operand_reread node, operands_rereads nodes, operands]

end

theorem query_rerooted (node : Node) : node.rerooted.query = node.query := by
  by_cases h : node.IsLogical
  · cases node with
    | logical op children => exact query_reread_logical op (operands_rereads children)
    | _ => exact absurd h id
  · rw [rerooted_of_not_isLogical h, query_logical_singleton, operand_reread,
      operand_of_not_isLogical h]

theorem leaves_logical_singleton (op : Op) (child : Node) :
    (logical op [child]).leaves = child.leaves := by
  rw [leaves, leavesIn, leavesIn, List.append_nil]

mutual

theorem leaves_reread : (node : Node) → node.reread.leaves = node.leaves
  | .comparison .. => rfl
  | .logical _ children => leavesIn_rereads children
  | .negation child => by
    have hg := apply_guarded (leaves_logical_singleton .and) child.reread
    rw [reread, leaves, hg, leaves_reread child, leaves]

theorem leavesIn_rereads : (nodes : List Node) → leavesIn (rereads nodes) = leavesIn nodes
  | [] => rfl
  | node :: nodes => by
    rw [rereads, leavesIn, leaves_reread node, leavesIn_rereads nodes, leavesIn]

end

theorem leaves_rerooted (node : Node) : node.rerooted.leaves = node.leaves :=
  (apply_rerooted (leaves_logical_singleton .and) node).trans (leaves_reread node)

variable (facts : Text → Text → Bool)

theorem truth_logical_of_length_eq_one {children : List Node} (h : children.length = 1)
    (op op' : Op) :
    (logical op children).truth facts = (logical op' children).truth facts := by
  obtain ⟨child, rfl⟩ := List.length_eq_one_iff.1 h
  rw [truth_logical_singleton, truth_logical_singleton]

theorem truth_logical_congr {nodes nodes' : List Node}
    (h : nodes.map (truth facts) = nodes'.map (truth facts)) (op : Op) :
    (logical op nodes).truth facts = (logical op nodes').truth facts := by
  have hall := congrArg (List.all · id) h
  have hany := congrArg (List.any · id) h
  simp only [List.all_map, List.any_map, Function.id_comp] at hall hany
  cases op with
  | and => simpa [truth, allTrue_eq_all] using hall
  | or => simpa [truth, anyTrue_eq_any] using hany

mutual

theorem truth_reread : (node : Node) → node.reread.truth facts = node.truth facts
  | .comparison .. => rfl
  | .logical op children => by
    have hc := truth_logical_congr facts (truths_rereads children)
    rw [reread, hc]
    by_cases hl : children.length = 1
    · exact truth_logical_of_length_eq_one facts hl _ op
    · rw [if_neg hl]
  | .negation child => by
    have hg := apply_guarded (truth_logical_singleton facts .and) child.reread
    rw [reread, truth, hg, truth_reread child, truth]

theorem truths_rereads : (nodes : List Node) →
    (rereads nodes).map (truth facts) = nodes.map (truth facts)
  | [] => rfl
  | node :: nodes => by
    rw [rereads, List.map_cons, truth_reread node, truths_rereads nodes, List.map_cons]

end

theorem truth_rerooted (node : Node) : node.rerooted.truth facts = node.truth facts :=
  (apply_rerooted (truth_logical_singleton facts .and) node).trans (truth_reread facts node)

theorem height_guarded_le (node : Node) : node.guarded.height ≤ node.height + 1 := by
  cases node with
  | comparison key value => exact Nat.le_succ _
  | logical op children => exact Nat.le_succ _
  | negation child => simp [guarded, height, heights]

mutual

/-- Reading a tree again at most doubles its height: each level may get a group between two
negations. -/
theorem height_reread_lt : (node : Node) → node.reread.height < 2 * node.height
  | .comparison .. => by simp [reread, height]
  | .logical op children => by
    have hc := heights_rereads_le children
    rw [reread, height, height]
    omega
  | .negation child => by
    have hc := height_reread_lt child
    have hg := child.reread.height_guarded_le
    rw [reread, height, height]
    omega

theorem heights_rereads_le : (nodes : List Node) → heights (rereads nodes) ≤ 2 * heights nodes
  | [] => Nat.le_refl 0
  | node :: nodes => by
    have hn := height_reread_lt node
    have hns := heights_rereads_le nodes
    rw [rereads, heights, heights]
    omega

end

theorem height_rerooted_le (node : Node) : node.rerooted.height ≤ 2 * node.height := by
  have hr := node.height_reread_lt
  by_cases h : node.IsLogical
  · rw [rerooted_of_isLogical h]
    omega
  · rw [rerooted_of_not_isLogical h, height, heights, heights]
    omega

theorem restates_rerooted (node : Node) : node.rerooted.Restates node :=
  ⟨query_rerooted node, leaves_rerooted node, fun facts => truth_rerooted facts node⟩

/-- A tree that a document can hold is written to a query that restates it, unless that would be
too tall, and a tree of less than half the height that is allowed is never too tall. -/
theorem parse_query_restates (node : Node) :
    ((∃ document, ofJson document = .ok node) ↔ node.Everywhere Sayable) ∧
    (node.Everywhere Sayable →
      ((∃ column, parse node.query = .error (.semantic .tooDeep column)) ∨
        ∃ again, parse node.query = .ok again ∧ again.Restates node) ∧
      (node.height < 128 → ∃ again, parse node.query = .ok again)) := by
  refine ⟨exists_ofJson_iff node, fun h => ?_⟩
  obtain ⟨p, hp, hc⟩ := cutsTo_query h
  refine ⟨?_, fun hh => ?_⟩
  · rcases hc.parse_eq with hok | ⟨htall, -⟩
    · exact .inr ⟨p.node, hok, hp ▸ restates_rerooted node⟩
    · exact .inl htall
  · have hle := height_rerooted_le node
    have hmax : maxDepth = 256 := rfl
    exact ⟨node.rerooted, parse_query_of_height_le h (by omega)⟩

theorem parse_query_restates_regrouped :
    (negation (negation (logical .or [comparison ['a'] ['1']]))).Everywhere Sayable ∧
    (negation (negation (logical .or [comparison ['a'] ['1']]))).height < 128 ∧
    (negation (negation (logical .or [comparison ['a'] ['1']]))).query =
      "NOT (NOT (a:1))".toList ∧
    parse "NOT (NOT (a:1))".toList = .ok (logical .and [negation (logical .and [
      negation (logical .and [comparison ['a'] ['1']])])]) ∧
    (logical .and [negation (logical .and [
      negation (logical .and [comparison ['a'] ['1']])])]).Restates
        (negation (negation (logical .or [comparison ['a'] ['1']]))) := by
  have hs : (negation (negation (logical .or [comparison ['a'] ['1']]))).Everywhere Sayable := by
    simp [Everywhere, EverywhereIn, Sayable, HasChildren, HasTexts]
  have hp : parse "NOT (NOT (a:1))".toList = .ok (logical .and [negation (logical .and [
      negation (logical .and [comparison ['a'] ['1']])])]) := by rfl
  obtain ⟨hread, hheight⟩ :=
    (parse_query_restates (negation (negation (logical .or [comparison ['a'] ['1']])))).2 hs
  obtain ⟨again, ha⟩ := hheight (by decide)
  refine ⟨hs, by decide, rfl, hp, ?_⟩
  rcases hread with ⟨column, he⟩ | ⟨again', ha', hr⟩
  · rw [ha] at he
    cases he
  · obtain rfl := Except.ok.inj (ha'.symm.trans hp)
    exact hr

end FieldQuery.Node
