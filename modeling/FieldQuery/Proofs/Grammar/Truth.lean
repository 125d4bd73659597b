import FieldQuery.Proofs.Node.Truth
import FieldQuery.Proofs.Parser.Sound
import FieldQuery.Proofs.Tokenizer
set_option autoImplicit false

namespace FieldQuery

variable (facts : Text → Text → Bool)

mutual

def Operand.truth : Operand → Bool
  | .comparison negated key value => negated ^^ facts key value
  | .group negated body => negated ^^ body.truth

/-- Operands without an operator between them are both taken to hold; no separated phrase has
such operands. -/
def Phrase.truth : Phrase → Bool
  | .single x => x.truth
  | .join front none x => front.truth && x.truth
  | .join front (some op) x => op.apply front.truth x.truth

end

mutual

/-- In every group there is an operator between neighbours. -/
def Operand.Separated : Operand → Prop
  | .comparison .. => True
  | .group _ body => body.Separated

def Phrase.Separated : Phrase → Prop
  | .single x => x.Separated
  | .join front op x => op ≠ none ∧ front.Separated ∧ x.Separated

end

theorem truth_negateIf (negated : Bool) (node : Node) :
    (negateIf negated node).truth facts = (negated ^^ node.truth facts) := by
  cases negated <;> simp [negateIf, Node.truth]

namespace Reading

theorem op_combine (r : Reading) (op : Op) : (r.combine op).op = some op := by
  unfold combine
  cases hop : r.op with
  | none => rfl
  | some old => by_cases ho : old = op <;> simp [ho, hop]

/-- While a group has no operator it may not have a second child, because it is not known yet what
the two say together. -/
theorem truth_combine_push {r : Reading} (h : r.op = none → ∃ child, r.children = [child])
    (op : Op) (node : Node) : ((r.combine op).push node).node.truth facts =
      op.apply (r.node.truth facts) (node.truth facts) := by
  have hnode : ((r.combine op).push node).node =
      .logical op ((r.combine op).children ++ [node]) := by
    simp [Reading.node, push, op_combine]
  rw [hnode, Node.truth_logical_append]
  congr 1
  unfold combine Reading.node
  cases hop : r.op with
  | none =>
    obtain ⟨child, hc⟩ := h hop
    simp [hc, Node.truth_logical_singleton]
  | some old => by_cases ho : old = op <;> simp [ho, Node.truth_logical_singleton]

end Reading

theorem Phrase.Separated.child_of_op_eq_none {p : Phrase} (h : p.Separated)
    (hop : p.reading.op = none) : ∃ child, p.reading.children = [child] := by
  match p, h with
  | .single x, _ => exact ⟨x.node, rfl⟩
  | .join front none x, h => exact absurd rfl h.1
  | .join front (some op) x, _ =>
    have hsome : (front.reading.combine op).op = none := hop
    rw [Reading.op_combine] at hsome
    cases hsome

mutual

theorem Operand.truth_node (x : Operand) (h : x.Separated) :
    x.node.truth facts = x.truth facts := by
  match x, h with
  | .comparison negated key value, _ =>
    rw [Operand.node, truth_negateIf, Node.truth, Operand.truth]
  | .group negated body, h =>
    rw [Operand.node, truth_negateIf, Operand.truth, ← body.truth_node h, Phrase.node]

theorem Phrase.truth_node (p : Phrase) (h : p.Separated) :
    p.node.truth facts = p.truth facts := by
  match p, h with
  | .single x, h =>
    rw [Phrase.node_single, Node.truth_logical_singleton, x.truth_node h, Phrase.truth]
  | .join front none x, h => exact absurd rfl h.1
  | .join front (some op) x, h =>
    have hfront := front.truth_node h.2.1
    have hx := x.truth_node h.2.2
    have hcombine := Reading.truth_combine_push facts h.2.1.child_of_op_eq_none op x.node
    rw [Phrase.truth, ← hfront, ← hx]
    exact hcombine

end

/-- The tree that a query is read to says what the query says from left to right. -/
theorem truth_of_parse {query : Text} {node : Node} (h : parse query = .ok node) :
    ∃ tokens, tokenize query = .ok tokens ∧ Derivable tokens ∧
      ∀ p : Phrase, p.Spells (significant tokens) → p.Separated →
        ∀ facts, node.truth facts = p.truth facts := by
  obtain ⟨tokens, ht, hp⟩ := exists_tokens_of_parse h
  rw [parseTokens_conclude] at hp
  obtain ⟨-, q, hq, -, -⟩ := Parser.conclude_eq_ok_iff.1 hp
  refine ⟨tokens, ht, ⟨q, hq⟩, fun p hspells hsep facts => ?_⟩
  rcases Parser.conclude_phrase hspells with hc | ⟨⟨_, hc⟩, -⟩
  · rw [hp, Except.ok.injEq] at hc
    rw [hc, p.truth_node facts hsep]
  · rw [hp] at hc
    cases hc

theorem truth_of_parse_two_operators :
    parse "a:1 OR NOT b:2 AND c:3".toList = .ok (.logical .and [
      .logical .or [.comparison ['a'] ['1'], .negation (.comparison ['b'] ['2'])],
      .comparison ['c'] ['3']]) ∧
    ∀ facts : Text → Text → Bool, (Node.logical .and [
      .logical .or [.comparison ['a'] ['1'], .negation (.comparison ['b'] ['2'])],
      .comparison ['c'] ['3']]).truth facts =
        ((facts ['a'] ['1'] || !facts ['b'] ['2']) && facts ['c'] ['3']) := by
  have h : parse "a:1 OR NOT b:2 AND c:3".toList = .ok (.logical .and [
      .logical .or [.comparison ['a'] ['1'], .negation (.comparison ['b'] ['2'])],
      .comparison ['c'] ['3']]) := by rfl
  have ht : tokenize "a:1 OR NOT b:2 AND c:3".toList = .ok [⟨.text, ['a'], 0⟩,
      ⟨.comparator, [':'], 1⟩, ⟨.text, ['1'], 2⟩, ⟨.whitespace, [' '], 3⟩,
      ⟨.logicalOperator, "OR".toList, 4⟩, ⟨.whitespace, [' '], 6⟩,
      ⟨.negator, "NOT".toList, 7⟩, ⟨.whitespace, [' '], 10⟩, ⟨.text, ['b'], 11⟩,
      ⟨.comparator, [':'], 12⟩, ⟨.text, ['2'], 13⟩, ⟨.whitespace, [' '], 14⟩,
      ⟨.logicalOperator, "AND".toList, 15⟩, ⟨.whitespace, [' '], 18⟩, ⟨.text, ['c'], 19⟩,
      ⟨.comparator, [':'], 20⟩, ⟨.text, ['3'], 21⟩] := by rfl
  refine ⟨h, fun facts => ?_⟩
  obtain ⟨tokens, htokens, -, hall⟩ := truth_of_parse h
  obtain rfl := Except.ok.inj (ht.symm.trans htokens)
  have ha := @Operand.Spells.comparison false [] ⟨.text, ['a'], 0⟩ ⟨.comparator, [':'], 1⟩
    ⟨.text, ['1'], 2⟩ .none rfl rfl rfl
  have hb := @Operand.Spells.comparison true [⟨.negator, "NOT".toList, 7⟩] ⟨.text, ['b'], 11⟩
    ⟨.comparator, [':'], 12⟩ ⟨.text, ['2'], 13⟩ (.one rfl) rfl rfl rfl
  have hc := @Operand.Spells.comparison false [] ⟨.text, ['c'], 19⟩ ⟨.comparator, [':'], 20⟩
    ⟨.text, ['3'], 21⟩ .none rfl rfl rfl
  have hor := @Phrase.Spells.joined _ _ _ _ ⟨.logicalOperator, "OR".toList, 4⟩ .or (.single ha)
    rfl (by decide) hb
  have hand := @Phrase.Spells.joined _ _ _ _ ⟨.logicalOperator, "AND".toList, 15⟩ .and hor
    rfl (by decide) hc
  have htruth := hall _ hand ⟨by simp, ⟨by simp, trivial, trivial⟩, trivial⟩ facts
  rw [htruth]
  simp [Phrase.truth, Operand.truth, Op.apply]

end FieldQuery
