import FieldQuery.Proofs.Node.Written
set_option autoImplicit false

/-! What becomes of a tree that is written as a query and parsed. The root comes back as a group,
an operator with one operand is not written, and parentheses keep two negations apart. -/

namespace FieldQuery

structure Written where
  operand : Operand
  text : Text

namespace Written

def Faithful (w : Written) : Prop := w.text.CutsTo w.operand.Spells

def joinAll (op : Op) (front : Phrase) (ws : List Written) : Phrase :=
  ws.foldl (fun p w => .join p (some op) w.operand) front

theorem cutsTo_joinAll (op : Op) {ws : List Written} {front : Phrase} {text : Text}
    (hf : text.CutsTo front.Spells) (hws : ∀ w ∈ ws, w.Faithful) :
    Text.CutsTo (text ++ ws.flatMap fun w => [' '] ++ op.keyword ++ [' '] ++ w.text)
      (joinAll op front ws).Spells := by
  induction ws generalizing front text with
  | nil => simpa [joinAll] using hf
  | cons w ws ih =>
    rw [List.flatMap_cons, ← List.append_assoc]
    exact ih (hf.join op (hws w (by simp))) fun v hv => hws v (by simp [hv])

theorem reading_joinAll {op : Op} {ws : List Written} {front : Phrase}
    (h : front.reading.op = some op ∨ front.reading.op = none) :
    (joinAll op front ws).reading =
      ⟨if ws = [] then front.reading.op else some op,
        front.reading.children ++ ws.map (·.operand.node)⟩ := by
  induction ws generalizing front with
  | nil => simp [joinAll]
  | cons w ws ih =>
    have hr : (Phrase.join front (some op) w.operand).reading =
        ⟨some op, front.reading.children ++ [w.operand.node]⟩ := by
      rcases h with h | h <;> simp [Phrase.reading, Reading.combine, Reading.push, h]
    rw [joinAll, List.foldl_cons, ← joinAll, ih (by simp [hr]), hr]
    simp

end Written

namespace Node

def guarded : Node → Node
  | .negation child => .logical .and [.negation child]
  | .comparison key value => .comparison key value
  | .logical op children => .logical op children

mutual

/-- A node as the parser gives it back inside a group. -/
def reread : Node → Node
  | .comparison key value => .comparison key value
  | .logical op children =>
    .logical (if children.length = 1 then .and else op) (rereads children)
  | .negation child => .negation child.reread.guarded

def rereads : List Node → List Node
  | [] => []
  | node :: nodes => node.reread :: rereads nodes

end

/-- A node as the parser gives it back as a whole query. -/
def rerooted (node : Node) : Node :=
  match node.reread with
  | .logical op children => .logical op children
  | .comparison key value => .logical .and [.comparison key value]
  | .negation child => .logical .and [.negation child]

theorem rerooted_of_isLogical {node : Node} (h : node.IsLogical) : node.rerooted = node.reread := by
  cases node with
  | comparison key value => exact absurd h id
  | logical op children => rfl
  | negation child => exact absurd h id

theorem rerooted_of_not_isLogical {node : Node} (h : ¬ node.IsLogical) :
    node.rerooted = .logical .and [node.reread] := by
  cases node with
  | comparison key value => rfl
  | logical op children => exact absurd trivial h
  | negation child => rfl

theorem length_rereads (nodes : List Node) : (rereads nodes).length = nodes.length := by
  induction nodes with
  | nil => rfl
  | cons node nodes ih => simp [rereads, ih]

theorem isNegation_reread {node : Node} : node.reread.IsNegation ↔ node.IsNegation := by
  cases node <;> simp [reread, IsNegation]

theorem intercalate_operands (sep : Text) (node : Node) (nodes : List Node) :
    sep.intercalate (operands (node :: nodes)) =
      node.operand ++ (operands nodes).flatMap (sep ++ ·) := by
  induction nodes generalizing node with
  | nil => simp [operands, List.intercalate]
  | cons next nodes ih =>
    have hi := ih next
    simp only [operands, List.flatMap_cons] at hi ⊢
    rw [List.intercalate_cons_cons, hi]
    simp

theorem cutsTo_children {op : Op} {children : List Node} {ws : List Written}
    (hne : children ≠ []) (hnodes : ws.map (·.operand.node) = rereads children)
    (htexts : ws.map Written.text = operands children) (hws : ∀ w ∈ ws, w.Faithful) :
    ∃ p : Phrase, p.node = (Node.logical op children).reread ∧
      Text.CutsTo (([' '] ++ op.keyword ++ [' ']).intercalate (operands children)) p.Spells := by
  obtain ⟨child, children, rfl⟩ := List.exists_cons_of_ne_nil hne
  have hwne : ws ≠ [] := by
    rintro rfl
    simp [operands] at htexts
  obtain ⟨w, ws, rfl⟩ := List.exists_cons_of_ne_nil hwne
  simp only [operands, rereads, List.map_cons, List.cons.injEq] at hnodes htexts
  refine ⟨Written.joinAll op (.single w.operand) ws, ?_, ?_⟩
  · rw [Phrase.node, Written.reading_joinAll (.inr rfl), reread, rereads, ← hnodes.1, ← hnodes.2]
    have hl : ws.length = children.length := by
      simpa [length_rereads] using congrArg List.length hnodes.2
    cases ws with
    | nil => simp [Reading.node, Phrase.reading, Reading.push, Reading.empty, ← hl]
    | cons v ws => simp [Reading.node, Phrase.reading, Reading.push, Reading.empty, ← hl]
  · rw [intercalate_operands, ← htexts.1, ← htexts.2, List.flatMap_map]
    have hfront := (hws w (by simp)).single
    exact Written.cutsTo_joinAll op hfront fun v hv => hws v (by simp [hv])

theorem cutsTo_negand {node : Node} {x : Operand} (hx : x.node = node.reread)
    (h : Text.CutsTo node.operand x.Spells) :
    ∃ y : Operand, y.firstKind ≠ .negator ∧ y.node = node.reread.guarded ∧
      Text.CutsTo node.negand y.Spells := by
  have hk : ¬ node.IsNegation → x.firstKind ≠ .negator := by
    intro hn hf
    have hneg := x.isNegation_node.2 hf
    rw [hx, isNegation_reread] at hneg
    exact hn hneg
  cases node with
  | comparison key value => exact ⟨x, hk id, hx, h⟩
  | logical op children => exact ⟨x, hk id, hx, h⟩
  | negation child =>
    -- The parentheses are read as a group of one operand, which becomes a conjunction.
    refine ⟨.group false (.single x), by simp [Operand.firstKind], ?_, h.single.group⟩
    simp [Operand.node, Phrase.reading, Reading.push, Reading.empty, Reading.node, negateIf, hx,
      reread, guarded]

mutual

theorem cutsTo_operand : (node : Node) → node.Everywhere Sayable →
    ∃ x : Operand, x.node = node.reread ∧ Text.CutsTo node.operand x.Spells
  | .comparison key value, h => ⟨.comparison false key value, rfl, .comparison h.2.1 h.2.2⟩
  | .logical op children, h => by
    obtain ⟨ws, hnodes, htexts, hws⟩ := cutsTo_operands children h.2
    obtain ⟨p, hp, hc⟩ := cutsTo_children h.1.1 hnodes htexts hws
    exact ⟨.group false p, hp, hc.group⟩
  | .negation child, h => by
    obtain ⟨x, hx, hc⟩ := cutsTo_operand child h.2
    obtain ⟨y, hk, hy, hn⟩ := cutsTo_negand hx hc
    exact ⟨y.negate, by rw [y.node_negate hk, hy, reread], hn.negate hk⟩

theorem cutsTo_operands : (nodes : List Node) → EverywhereIn Sayable nodes →
    ∃ ws : List Written, ws.map (·.operand.node) = rereads nodes ∧
      ws.map Written.text = operands nodes ∧ ∀ w ∈ ws, w.Faithful
  | [], _ => ⟨[], rfl, rfl, by simp⟩
  | node :: nodes, h => by
    obtain ⟨x, hx, hc⟩ := cutsTo_operand node h.1
    obtain ⟨ws, hnodes, htexts, hws⟩ := cutsTo_operands nodes h.2
    refine ⟨⟨x, node.operand⟩ :: ws, by simp [rereads, hx, hnodes], by simp [operands, htexts], ?_⟩
    intro w hw
    rcases List.mem_cons.1 hw with rfl | hw
    · exact hc
    · exact hws w hw

end

theorem cutsTo_query {node : Node} (h : node.Everywhere Sayable) :
    ∃ p : Phrase, p.node = node.rerooted ∧ Text.CutsTo node.query p.Spells := by
  cases node with
  | comparison key value =>
    obtain ⟨x, hx, hc⟩ := cutsTo_operand (.comparison key value) h
    exact ⟨.single x, by rw [Phrase.node_single, hx]; rfl, hc.single⟩
  | logical op children =>
    obtain ⟨ws, hnodes, htexts, hws⟩ := cutsTo_operands children h.2
    exact cutsTo_children h.1.1 hnodes htexts hws
  | negation child =>
    obtain ⟨x, hx, hc⟩ := cutsTo_operand (.negation child) h
    exact ⟨.single x, by rw [Phrase.node_single, hx]; rfl, hc.single⟩

theorem parse_query_of_height_le {node : Node} (h : node.Everywhere Sayable)
    (hh : node.rerooted.height ≤ maxDepth) : parse node.query = .ok node.rerooted := by
  obtain ⟨p, hp, hc⟩ := cutsTo_query h
  rw [← hp] at hh ⊢
  exact hc.parse_of_height_le hh

end Node

end FieldQuery
