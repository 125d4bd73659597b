import FieldQuery.Proofs.Grammar
import FieldQuery.Proofs.Parser.Step
set_option autoImplicit false

/-! The parser reads every phrase. From any state between two operands it takes the tokens of an
operand as a whole, and what it adds to the innermost group is the operand's node. A check of the
room that is left can only fail on the way to a tree that is too tall, because readings only
grow. -/

namespace FieldQuery

open FieldQuery.Parser

namespace Reading

def group (r : Reading) (negated : Bool) : Group :=
  ⟨r.op, r.children, negated, Node.heights r.children⟩

@[simp] theorem group_empty (negated : Bool) : empty.group negated = .opened negated := rfl

@[simp] theorem group_push (r : Reading) (node : Node) (negated : Bool) :
    (r.push node).group negated = (r.group negated).push node node.height := by
  simp [group, push, Group.push, Node.heights]

@[simp] theorem group_combine (r : Reading) (op : Op) (negated : Bool) :
    (r.combine op).group negated = (r.group negated).combine op := by
  unfold combine Group.combine
  cases hop : r.op with
  | none => simp [group, hop]
  | some old => by_cases ho : old = op <;> simp [group, hop, ho, Node.heights, Node.height]

@[simp] theorem toNode_group (r : Reading) (negated : Bool) :
    (r.group negated).toNode = negateIf negated r.node := rfl

@[simp] theorem nodeHeight_group (r : Reading) (negated : Bool) :
    (r.group negated).nodeHeight = (negateIf negated r.node).height := by
  cases negated <;> simp [group, Group.nodeHeight, negateIf, node, Node.height]

theorem height_negateIf_node (r : Reading) (negated : Bool) :
    (negateIf negated r.node).height = Node.heights r.children + 1 + negated.toNat := by
  cases negated <;> simp [negateIf, node, Node.height]

theorem heights_push (r : Reading) (node : Node) :
    Node.heights (r.push node).children = max (Node.heights r.children) node.height := by
  simp [push, Node.heights]

theorem combines_of_height_le {r : Reading} {negated : Bool} {op : Op}
    (hh : (negateIf negated (r.combine op).node).height ≤ maxDepth) :
    (r.group negated).Combines op := by
  intro old ho hne
  have hg := nodeHeight_group (r.combine op) negated
  rw [group_combine, Group.combine, ho] at hg
  simp only [hne, if_false, Group.nodeHeight] at hg ⊢
  omega

theorem heights_le_combine (r : Reading) (op : Op) :
    Node.heights r.children ≤ Node.heights (r.combine op).children := by
  unfold combine
  cases r.op with
  | none => exact Nat.le_refl _
  | some old => by_cases ho : old = op <;> simp [ho, Node.heights, Node.height]

end Reading

namespace Parser.State

def between (top : Group) (below : List Group) (forbidden : List Kind) (last : Option Kind) :
    State :=
  ⟨top, below, forbidden, [], false, last, none⟩

def ready (negated : Bool) (top : Group) (below : List Group) (forbidden : List Kind)
    (last : Option Kind) : State :=
  if negated then ⟨top, below, [], negatable, true, some .negator, none⟩
  else between top below forbidden last

variable {top : Group} {below : List Group} {forbidden : List Kind} {last : Option Kind}

/-- The tokens lead from one state to another, or the room runs out on the way; `tall` holds if it
does. -/
def Leads (s : State) (ts : List Token) (s' : State) (tall : Prop) : Prop :=
  s.run ts = .ok s' ∨ (∃ column, s.run ts = .error (.semantic .tooDeep column)) ∧ tall

theorem Leads.of_step {s s' : State} {t : Token} {P : Prop} (h : s.step t = .ok s') :
    s.Leads [t] s' P :=
  .inl (run_cons_of_step h [])

theorem Leads.of_tooDeep {s s' : State} {t : Token} {P : Prop}
    (h : s.step t = .error (.semantic .tooDeep (some t.column))) (hp : P) : s.Leads [t] s' P :=
  .inr ⟨⟨_, run_cons_of_error h []⟩, hp⟩

theorem Leads.imp {s s' : State} {ts : List Token} {P Q : Prop} (hpq : P → Q)
    (h : s.Leads ts s' P) : s.Leads ts s' Q :=
  Or.imp_right (And.imp_right hpq) h

theorem Leads.append {s middle s' : State} {ts us : List Token} {P : Prop}
    (hf : s.Leads ts middle P) (hb : middle.Leads us s' P) : s.Leads (ts ++ us) s' P := by
  rcases hf with hf | ⟨⟨column, hf⟩, hp⟩
  · rw [Leads, run_append_of_run hf]
    exact hb
  · exact .inr ⟨⟨column, run_append_of_error hf us⟩, hp⟩

theorem run_negators {negated : Bool} {ns : List Token} {k : Kind} (h : Negators negated ns)
    (hk : (if negated then .negator else k) ∉ forbidden) :
    (between top below forbidden last).run ns = .ok (ready negated top below forbidden last) := by
  cases h with
  | none => rfl
  | one ht =>
    exact run_cons_of_step (step_eq_ok_iff.2 (.negator ht rfl ⟨.inl rfl, hk⟩)) []

theorem awaited_ready (negated : Bool) :
    (ready negated top below forbidden last).awaited = none := by
  cases negated <;> rfl

theorem ready_admits {negated : Bool} {k : Kind} (hn : k ∈ negatable)
    (hk : (if negated then .negator else k) ∉ forbidden) :
    (ready negated top below forbidden last).Admits k := by
  cases negated with
  | false => exact ⟨.inl rfl, hk⟩
  | true => exact ⟨.inr hn, List.not_mem_nil⟩

theorem run_comparison {negated : Bool} {key comparator value : Token} (hk : key.kind = .text)
    (hc : comparator.kind = .comparator) (hv : value.kind = .text)
    (hf : (if negated then .negator else .text) ∉ forbidden) :
    (ready negated top below forbidden last).run [key, comparator, value] =
      .ok (between (top.push (negateIf negated (.comparison key.text value.text))
        (negateIf negated (.comparison key.text value.text)).height)
        below [.text] (some .text)) := by
  have had : (ready negated top below forbidden last).Admits .text := ready_admits (by decide) hf
  rw [run_cons_of_step (step_eq_ok_iff.2 (.key hk (awaited_ready negated) had)),
    run_cons_of_step (step_eq_ok_iff.2 (.comparator hc rfl)),
    run_cons_of_step (step_eq_ok_iff.2 (.value hv rfl))]
  cases negated <;> rfl

theorem step_opening {negated : Bool} {opening : Token} (ho : opening.kind = .openGroup)
    (hf : (if negated then .negator else .openGroup) ∉ forbidden)
    (hh : below.length + 3 ≤ maxDepth) :
    (ready negated top below forbidden last).step opening =
      .ok (between (.opened negated) (top :: below) afterOpenGroup (some .openGroup)) := by
  have had : (ready negated top below forbidden last).Admits .openGroup :=
    ready_admits (by decide) hf
  have hd : (ready negated top below forbidden last).depth + 3 ≤ maxDepth := by
    cases negated <;> exact hh
  rw [step_eq_ok_iff.2 (.openGroup ho (awaited_ready negated) had hd)]
  cases negated <;> rfl

theorem leads_opening {negated : Bool} {opening : Token} (ho : opening.kind = .openGroup)
    (hf : (if negated then .negator else .openGroup) ∉ forbidden) :
    (ready negated top below forbidden last).Leads [opening]
      (between (.opened negated) (top :: below) afterOpenGroup (some .openGroup))
      (maxDepth < below.length + 3) := by
  by_cases hh : below.length + 3 ≤ maxDepth
  · exact .of_step (step_opening ho hf hh)
  · refine .of_tooDeep (step_openGroup_tooDeep ho (awaited_ready negated)
      (ready_admits (by decide) hf) ?_) (by omega)
    cases negated <;> exact Nat.lt_of_not_le hh

theorem step_closing {r : Reading} {negated : Bool} {closing : Token} {outer : Group}
    (hc : closing.kind = .closeGroup) (hf : .closeGroup ∉ forbidden) (hr : r.children ≠ [])
    (hh : (negateIf negated r.node).height ≤ maxDepth) :
    (between (r.group negated) (outer :: below) forbidden last).step closing =
      .ok (between (outer.push (negateIf negated r.node) (negateIf negated r.node).height) below
        [.openGroup] (some .closeGroup)) := by
  have hn : (r.group negated).nodeHeight ≤ maxDepth := by rwa [Reading.nodeHeight_group]
  rw [step_eq_ok_iff.2 (.closeGroup hc rfl ⟨.inl rfl, hf⟩ rfl hr hn)]
  simp [between, afterCloseGroup]

theorem leads_closing {r : Reading} {negated : Bool} {closing : Token} {outer : Group}
    (hc : closing.kind = .closeGroup) (hf : .closeGroup ∉ forbidden) (hr : r.children ≠ []) :
    (between (r.group negated) (outer :: below) forbidden last).Leads [closing]
      (between (outer.push (negateIf negated r.node) (negateIf negated r.node).height) below
        [.openGroup] (some .closeGroup))
      (maxDepth < (negateIf negated r.node).height) := by
  by_cases hh : (negateIf negated r.node).height ≤ maxDepth
  · exact .of_step (step_closing hc hf hr hh)
  · have hlt : maxDepth < (r.group negated).nodeHeight := by
      rw [Reading.nodeHeight_group]
      omega
    exact .of_tooDeep (step_closeGroup_tooDeep hc rfl ⟨.inl rfl, hf⟩ rfl hr hlt) (by omega)

theorem step_operator {r : Reading} {negated : Bool} {t : Token} {op : Op}
    (ht : t.kind = .logicalOperator) (hop : Op.ofText? t.text = some op)
    (hf : .logicalOperator ∉ forbidden) (hr : r.children ≠ [])
    (hc : (r.group negated).Combines op) :
    (between (r.group negated) below forbidden last).step t =
      .ok (between ((r.combine op).group negated) below afterOperator (some .logicalOperator)) := by
  rw [step_eq_ok_iff.2 (.operator ht rfl ⟨.inl rfl, hf⟩ hop hr hc)]
  simp [between]

theorem leads_operator {r : Reading} {negated : Bool} {t : Token} {op : Op}
    (ht : t.kind = .logicalOperator) (hop : Op.ofText? t.text = some op)
    (hf : .logicalOperator ∉ forbidden) (hr : r.children ≠ []) :
    (between (r.group negated) below forbidden last).Leads [t]
      (between ((r.combine op).group negated) below afterOperator (some .logicalOperator))
      (maxDepth < (negateIf negated (r.combine op).node).height) := by
  by_cases hc : (r.group negated).Combines op
  · exact .of_step (step_operator ht hop hf hr hc)
  · refine .of_tooDeep (step_operator_tooDeep ht rfl ⟨.inl rfl, hf⟩ hop hr hc) ?_
    exact Nat.lt_of_not_le fun hh => hc (Reading.combines_of_height_le hh)

end Parser.State

namespace Operand

def lastKind : Operand → Kind
  | .comparison .. => .text
  | .group .. => .closeGroup

theorem barred_ne_closeGroup (x : Operand) : x.barred ≠ .closeGroup := by
  cases x <;> simp [barred]

theorem barred_ne_logicalOperator (x : Operand) : x.barred ≠ .logicalOperator := by
  cases x <;> simp [barred]

theorem barred_ne_negator (x : Operand) : x.barred ≠ .negator := by
  cases x <;> simp [barred]

theorem firstKind_mem (x : Operand) : x.firstKind ∈ [Kind.negator, .text, .openGroup] := by
  cases x with
  | comparison negated _ _ => cases negated <;> simp [firstKind]
  | group negated _ => cases negated <;> simp [firstKind]

end Operand

theorem Phrase.children_ne_nil (p : Phrase) : p.reading.children ≠ [] := by
  cases p with
  | single x => simp [reading, Reading.push]
  | join front op x => cases op <;> simp [reading, Reading.push]

theorem Phrase.two_le_height (p : Phrase) (negated : Bool) :
    2 ≤ (negateIf negated p.reading.node).height := by
  obtain ⟨child, children, hc⟩ := List.exists_cons_of_ne_nil p.children_ne_nil
  have hp := child.height_pos
  rw [Reading.height_negateIf_node, hc, Node.heights]
  omega

open State

mutual

theorem Operand.leads (x : Operand) {ts : List Token} (h : x.Spells ts) {top : Group}
    {below : List Group} {forbidden : List Kind} {last : Option Kind}
    (hk : x.firstKind ∉ forbidden) :
    (between top below forbidden last).Leads ts
      (between (top.push x.node x.node.height) below [x.barred] (some x.lastKind))
      (maxDepth < below.length + 1 + x.node.height) := by
  match x, h with
  | .comparison negated _ _, .comparison hn hkey hc hv =>
    left
    rw [run_append_of_run (run_negators hn hk), run_comparison hkey hc hv hk]
    rfl
  | .group negated body, .group hn ho hb hc =>
    -- A group that finds no room to open is too tall, because it is taller than a leaf.
    have htwo := body.two_le_height negated
    have hbarred := body.last.barred_ne_closeGroup.symm
    simp only [Operand.node]
    refine Leads.append (.inl (run_negators hn hk)) ?_
    refine ((leads_opening ho hk).imp (by omega)).append ?_
    refine ((body.leads hb (by simp [afterOpenGroup])).imp ?_).append ?_
    · simp only [List.length_cons]
      omega
    · exact (leads_closing hc (by simpa using hbarred) body.children_ne_nil).imp (by omega)

theorem Phrase.leads (p : Phrase) {ts : List Token} (h : p.Spells ts) {negated : Bool}
    {below : List Group} {forbidden : List Kind} {last : Option Kind}
    (hk : ∀ k ∈ forbidden, k = .comparator) :
    (between (.opened negated) below forbidden last).Leads ts
      (between (p.reading.group negated) below [p.last.barred] (some p.last.lastKind))
      (maxDepth < below.length + (negateIf negated p.reading.node).height) := by
  match p, h with
  | .single x, .single hx =>
    have hxk : x.firstKind ∉ forbidden := by
      intro hm
      have hf := x.firstKind_mem
      simp [hk _ hm] at hf
    simp only [Phrase.reading, Reading.height_negateIf_node, Reading.heights_push,
      Reading.group_push]
    exact (x.leads hx hxk).imp (by omega)
  | .join front none x, .juxtaposed hf hx hb =>
    simp only [Phrase.reading, Reading.height_negateIf_node, Reading.heights_push,
      Reading.group_push]
    refine ((front.leads hf hk).imp ?_).append ((x.leads hx (by simpa using hb)).imp (by omega))
    rw [Reading.height_negateIf_node]
    omega
  | .join front (some op) x, .joined hf ht hop hx =>
    have hle := front.reading.heights_le_combine op
    have hbarred := front.last.barred_ne_logicalOperator.symm
    have hxk : x.firstKind ∉ afterOperator := by
      intro hm
      have hf := x.firstKind_mem
      simp only [afterOperator, List.mem_cons, List.not_mem_nil, or_false] at hm
      rcases hm with hm | hm <;> simp [hm] at hf
    simp only [Phrase.reading, Reading.height_negateIf_node, Reading.heights_push,
      Reading.group_push]
    refine ((front.leads hf hk).imp ?_).append (Leads.append
      ((leads_operator ht hop (by simpa using hbarred) front.children_ne_nil).imp ?_)
      ((x.leads hx hxk).imp (by omega)))
    · rw [Reading.height_negateIf_node]
      omega
    · rw [Reading.height_negateIf_node]
      omega

end

end FieldQuery
