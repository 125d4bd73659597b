import FieldQuery.Proofs.Cursor
set_option autoImplicit false

/-! What one token can do to the state of the parser. `Step` has a constructor for each way in which
a token is accepted, with all that has to hold for it, and `step_eq_ok_iff` says that these are the
only ways. -/

namespace FieldQuery.Parser

def Group.combine (g : Group) (op : Op) : Group :=
  match g.op with
  | none => { g with op := some op }
  | some old =>
    if old = op then g
    else { g with op := some op, children := [.logical old g.children], height := g.height + 1 }

def Group.Combines (g : Group) (op : Op) : Prop :=
  ∀ old, g.op = some old → old ≠ op → g.nodeHeight + 1 ≤ maxDepth

namespace State

def Admits (s : State) (k : Kind) : Prop :=
  (s.required = [] ∨ k ∈ s.required) ∧ k ∉ s.forbidden

inductive Step : State → Token → State → Prop where
  | whitespace {s : State} {t : Token} : t.kind = .whitespace → Step s t s
  | comparator {s : State} {t : Token} {key : Text} : t.kind = .comparator →
      s.awaited = some (.comparator key) → Step s t { s with awaited := some (.value key) }
  | value {s : State} {t : Token} {key : Text} : t.kind = .text →
      s.awaited = some (.value key) → Step s t (s.comparison key t.text)
  | key {s : State} {t : Token} : t.kind = .text → s.awaited = none → s.Admits .text →
      Step s t { s with
        required := [], forbidden := [], last := some .text,
        awaited := some (.comparator t.text) }
  | openGroup {s : State} {t : Token} : t.kind = .openGroup → s.awaited = none →
      s.Admits .openGroup → s.depth + 3 ≤ maxDepth →
      Step s t { s with
        top := .opened s.negateNext, below := s.top :: s.below, negateNext := false,
        required := [], forbidden := afterOpenGroup, last := some .openGroup }
  | closeGroup {s : State} {t : Token} {outer : Group} {below : List Group} :
      t.kind = .closeGroup → s.awaited = none → s.Admits .closeGroup →
      s.below = outer :: below → s.top.children ≠ [] → s.top.nodeHeight ≤ maxDepth →
      Step s t { s with
        top := outer.push s.top.toNode s.top.nodeHeight, below := below,
        required := [], forbidden := afterCloseGroup, last := some .closeGroup }
  | operator {s : State} {t : Token} {op : Op} : t.kind = .logicalOperator → s.awaited = none →
      s.Admits .logicalOperator → Op.ofText? t.text = some op → s.top.children ≠ [] →
      s.top.Combines op →
      Step s t { s with
        top := s.top.combine op, required := [], forbidden := afterOperator,
        last := some .logicalOperator }
  | negator {s : State} {t : Token} : t.kind = .negator → s.awaited = none → s.Admits .negator →
      Step s t { s with
        required := negatable, forbidden := [], last := some .negator, negateNext := true }

theorem checkAdjacency_eq_ok_iff {s : State} {t : Token} :
    s.checkAdjacency t = .ok () ↔ s.Admits t.kind := by
  unfold checkAdjacency Admits
  by_cases hr : s.required = []
  · by_cases hf : t.kind ∈ s.forbidden <;> simp [hr, hf]
  · by_cases hm : t.kind ∈ s.required <;> by_cases hf : t.kind ∈ s.forbidden <;>
      simp [hr, hm, hf]

theorem logicalOperator_eq_ok_iff {s s' : State} {t : Token} :
    s.logicalOperator t = .ok s' ↔ ∃ op, Op.ofText? t.text = some op ∧ s.top.children ≠ [] ∧
      s.top.Combines op ∧ s' = { s with top := s.top.combine op, forbidden := afterOperator } := by
  unfold logicalOperator Group.Combines Group.combine
  cases Op.ofText? t.text with
  | none => simp
  | some op =>
    by_cases hc : s.top.children = []
    · simp [hc]
    · cases hop : s.top.op with
      | none => simp [hc, eq_comm]
      | some old =>
        by_cases ho : old = op
        · simp [hc, ho, eq_comm]
        · by_cases hh : s.top.nodeHeight + 1 > maxDepth
          · have hnle : ¬ s.top.nodeHeight + 1 ≤ maxDepth := by omega
            simp [hc, ho, hh, hnle]
          · have hle : s.top.nodeHeight + 1 ≤ maxDepth := by omega
            simp [hc, ho, hh, hle, eq_comm]

theorem openGroup_eq_ok_iff {s s' : State} {t : Token} :
    s.openGroup t = .ok s' ↔ s.depth + 3 ≤ maxDepth ∧ s' = { s with
      top := .opened s.negateNext, below := s.top :: s.below, negateNext := false,
      forbidden := afterOpenGroup } := by
  unfold openGroup
  by_cases hd : s.depth + 3 > maxDepth
  · have hnle : ¬ s.depth + 3 ≤ maxDepth := by omega
    simp [hd, hnle]
  · have hle : s.depth + 3 ≤ maxDepth := by omega
    simp [hd, hle, eq_comm]

theorem closeGroup_eq_ok_iff {s s' : State} {t : Token} :
    s.closeGroup t = .ok s' ↔ ∃ outer below, s.below = outer :: below ∧ s.top.children ≠ [] ∧
      s.top.nodeHeight ≤ maxDepth ∧ s' = { s with
        top := outer.push s.top.toNode s.top.nodeHeight, below := below,
        forbidden := afterCloseGroup } := by
  unfold closeGroup
  cases s.below with
  | nil => simp
  | cons outer below =>
    by_cases hc : s.top.children = []
    · simp [hc]
    · by_cases hh : s.top.nodeHeight > maxDepth
      · have hnle : ¬ s.top.nodeHeight ≤ maxDepth := by omega
        simp [hc, hh, hnle]
      · simp only [hc, hh, if_false, Except.ok.injEq]
        constructor
        · rintro rfl
          exact ⟨outer, below, rfl, hc, by omega, rfl⟩
        · rintro ⟨_, _, ho, _, _, rfl⟩
          obtain ⟨rfl, rfl⟩ := List.cons.inj ho
          rfl

theorem dispatch_of_admits {s : State} {t : Token} (h : s.Admits t.kind) :
    s.dispatch t =
      let s := { s with required := [], forbidden := [], last := some t.kind }
      match t.kind with
      | .whitespace => .ok s
      | .openGroup => s.openGroup t
      | .closeGroup => s.closeGroup t
      | .text => .ok { s with awaited := some (.comparator t.text) }
      | .logicalOperator => s.logicalOperator t
      | .negator => .ok { s with required := negatable, negateNext := true }
      | .comparator => .error (.semantic (.unexpected t.kind) (some t.column)) := by
  rw [dispatch, checkAdjacency_eq_ok_iff.2 h]
  rfl

theorem step_eq_dispatch {s : State} {t : Token} (hk : t.kind ≠ .whitespace)
    (ha : s.awaited = none) : s.step t = s.dispatch t := by
  simp [step, hk, ha]

theorem step_openGroup_tooDeep {s : State} {t : Token} (ht : t.kind = .openGroup)
    (ha : s.awaited = none) (had : s.Admits .openGroup) (h : maxDepth < s.depth + 3) :
    s.step t = .error (.semantic .tooDeep (some t.column)) := by
  rw [step_eq_dispatch (by simp [ht]) ha, dispatch_of_admits (ht ▸ had)]
  simp only [ht]
  exact if_pos h

theorem step_closeGroup_tooDeep {s : State} {t : Token} {outer : Group} {below : List Group}
    (ht : t.kind = .closeGroup) (ha : s.awaited = none) (had : s.Admits .closeGroup)
    (hb : s.below = outer :: below) (hc : s.top.children ≠ [])
    (h : maxDepth < s.top.nodeHeight) :
    s.step t = .error (.semantic .tooDeep (some t.column)) := by
  rw [step_eq_dispatch (by simp [ht]) ha, dispatch_of_admits (ht ▸ had)]
  simp [ht, closeGroup, hb, hc, h]

theorem step_operator_tooDeep {s : State} {t : Token} {op : Op} (ht : t.kind = .logicalOperator)
    (ha : s.awaited = none) (had : s.Admits .logicalOperator) (hop : Op.ofText? t.text = some op)
    (hc : s.top.children ≠ []) (h : ¬ s.top.Combines op) :
    s.step t = .error (.semantic .tooDeep (some t.column)) := by
  simp only [Group.Combines, Classical.not_forall] at h
  obtain ⟨old, ho, hne, hh⟩ := h
  have hlt : maxDepth < s.top.nodeHeight + 1 := by omega
  rw [step_eq_dispatch (by simp [ht]) ha, dispatch_of_admits (ht ▸ had)]
  simp [ht, logicalOperator, hop, hc, ho, hne, hlt]

theorem admits_of_dispatch {s s' : State} {t : Token} (h : s.dispatch t = .ok s') :
    s.Admits t.kind := by
  unfold dispatch at h
  cases hc : s.checkAdjacency t with
  | error e => simp [hc, bind, Except.bind] at h
  | ok u => exact checkAdjacency_eq_ok_iff.1 hc

theorem step_supply {s s' : State} {t : Token} {awaited : Awaited}
    (ha : s.awaited = some awaited) (h : s.supply awaited t = .ok s') : Step s t s' := by
  unfold supply at h
  cases awaited with
  | comparator key =>
    by_cases ht : t.kind = .comparator
    · simp [Awaited.kind, ht] at h
      exact h ▸ .comparator ht ha
    · simp [Awaited.kind, ht] at h
  | value key =>
    by_cases ht : t.kind = .text
    · simp [Awaited.kind, ht] at h
      exact h ▸ .value ht ha
    · simp [Awaited.kind, ht] at h

theorem step_dispatch {s s' : State} {t : Token} (hk : t.kind ≠ .whitespace)
    (ha : s.awaited = none) (h : s.dispatch t = .ok s') : Step s t s' := by
  have had := admits_of_dispatch h
  rw [dispatch_of_admits had] at h
  cases ht : t.kind with
  | whitespace => exact absurd ht hk
  | openGroup =>
    rw [ht] at h had
    obtain ⟨hd, rfl⟩ := openGroup_eq_ok_iff.1 h
    exact .openGroup ht ha had hd
  | closeGroup =>
    rw [ht] at h had
    obtain ⟨outer, below, hb, hc, hh, rfl⟩ := closeGroup_eq_ok_iff.1 h
    exact .closeGroup ht ha had hb hc hh
  | text =>
    rw [ht] at h had
    exact Except.ok.inj h ▸ .key ht ha had
  | logicalOperator =>
    rw [ht] at h had
    obtain ⟨op, hop, hc, hh, rfl⟩ := logicalOperator_eq_ok_iff.1 h
    exact .operator ht ha had hop hc hh
  | negator =>
    rw [ht] at h had
    exact Except.ok.inj h ▸ .negator ht ha had
  | comparator => simp [ht] at h

/-- The constructors of `Step` are all the ways in which a token is accepted. -/
theorem step_eq_ok_iff {s s' : State} {t : Token} : s.step t = .ok s' ↔ Step s t s' := by
  constructor
  · intro h
    unfold step at h
    by_cases hk : t.kind = .whitespace
    · rw [if_pos hk] at h
      exact Except.ok.inj h ▸ .whitespace hk
    · rw [if_neg hk] at h
      cases ha : s.awaited with
      | none => exact step_dispatch hk ha (by simpa [ha] using h)
      | some awaited => exact step_supply ha (by simpa [ha] using h)
  · intro h
    cases h with
    | whitespace hk => exact step_whitespace s hk
    | comparator ht ha => simp [step, supply, Awaited.kind, ht, ha]
    | value ht ha => simp [step, supply, Awaited.kind, ht, ha]
    | key ht ha had =>
      rw [← ht] at had
      simp [step, ht, ha, dispatch_of_admits had]
    | openGroup ht ha had hd =>
      rw [← ht] at had
      simp only [step, ht, ha, dispatch_of_admits had]
      exact openGroup_eq_ok_iff.2 ⟨hd, rfl⟩
    | closeGroup ht ha had hb hc hh =>
      rw [← ht] at had
      simp only [step, ht, ha, dispatch_of_admits had]
      exact closeGroup_eq_ok_iff.2 ⟨_, _, hb, hc, hh, rfl⟩
    | operator ht ha had hop hc hh =>
      rw [← ht] at had
      simp only [step, ht, ha, dispatch_of_admits had]
      exact logicalOperator_eq_ok_iff.2 ⟨_, hop, hc, hh, rfl⟩
    | negator ht ha had =>
      rw [← ht] at had
      simp [step, ht, ha, dispatch_of_admits had]

theorem Step.of_awaited {s s' : State} {t : Token} {awaited : Awaited} (h : Step s t s')
    (hk : t.kind ≠ .whitespace) (ha : s.awaited = some awaited) : t.kind = awaited.kind ∧
      match awaited with
      | .comparator k => s' = { s with awaited := some (.value k) }
      | .value k => s' = s.comparison k t.text := by
  cases h with
  | whitespace hw => exact absurd hw hk
  | comparator ht hc =>
    obtain rfl := Option.some.inj (ha.symm.trans hc)
    exact ⟨ht, rfl⟩
  | value ht hv =>
    obtain rfl := Option.some.inj (ha.symm.trans hv)
    exact ⟨ht, rfl⟩
  | _ => simp_all

theorem finish_eq_ok_iff {s : State} {node : Node} :
    s.finish = .ok node ↔ s.awaited = none ∧ s.negateNext = false ∧
      s.last ≠ some .logicalOperator ∧ s.below = [] ∧ s.top.children ≠ [] ∧
      s.top.nodeHeight ≤ maxDepth ∧ s.top.toNode = node := by
  unfold finish
  cases s.awaited with
  | some awaited => simp
  | none =>
    cases s.negateNext with
    | true => simp
    | false =>
      by_cases hl : s.last = some .logicalOperator
      · simp [hl]
      · by_cases hb : s.below = []
        · by_cases hc : s.top.children = []
          · simp [hl, hb, hc]
          · by_cases hh : s.top.nodeHeight > maxDepth
            · have hnle : ¬ s.top.nodeHeight ≤ maxDepth := by omega
              simp [hl, hb, hc, hh, hnle]
            · have hle : s.top.nodeHeight ≤ maxDepth := by omega
              simp [hl, hb, hc, hh, hle]
        · simp [hl, hb]

theorem supply_error {s : State} {t : Token} {awaited : Awaited} {e : QueryError}
    (h : s.supply awaited t = .error e) : ∃ fault, e = .semantic fault (some t.column) := by
  unfold supply at h
  split at h
  · cases awaited <;> simp at h
  · exact ⟨_, (Except.error.inj h).symm⟩

theorem checkAdjacency_error {s : State} {t : Token} {e : QueryError}
    (h : s.checkAdjacency t = .error e) : ∃ fault, e = .semantic fault (some t.column) := by
  unfold checkAdjacency at h
  split at h
  · exact ⟨_, (Except.error.inj h).symm⟩
  · split at h
    · exact ⟨_, (Except.error.inj h).symm⟩
    · cases h

theorem openGroup_error {s : State} {t : Token} {e : QueryError} (h : s.openGroup t = .error e) :
    ∃ fault, e = .semantic fault (some t.column) := by
  unfold openGroup at h
  split at h
  · exact ⟨_, (Except.error.inj h).symm⟩
  · cases h

theorem closeGroup_error {s : State} {t : Token} {e : QueryError} (h : s.closeGroup t = .error e) :
    ∃ fault, e = .semantic fault (some t.column) := by
  unfold closeGroup at h
  grind

theorem logicalOperator_error {s : State} {t : Token} {e : QueryError}
    (h : s.logicalOperator t = .error e) : ∃ fault, e = .semantic fault (some t.column) := by
  unfold logicalOperator at h
  grind

theorem dispatch_error {s : State} {t : Token} {e : QueryError} (h : s.dispatch t = .error e) :
    ∃ fault, e = .semantic fault (some t.column) := by
  cases hc : s.checkAdjacency t with
  | error e' =>
    simp [dispatch, hc, bind, Except.bind] at h
    exact h ▸ checkAdjacency_error hc
  | ok u =>
    rw [dispatch_of_admits (checkAdjacency_eq_ok_iff.1 hc)] at h
    cases ht : t.kind with
    | openGroup => exact openGroup_error (by simpa [ht] using h)
    | closeGroup => exact closeGroup_error (by simpa [ht] using h)
    | logicalOperator => exact logicalOperator_error (by simpa [ht] using h)
    | comparator => exact ⟨_, by simpa [ht, eq_comm] using h⟩
    | _ => simp [ht] at h

theorem step_error {s : State} {t : Token} {e : QueryError} (h : s.step t = .error e) :
    ∃ fault, e = .semantic fault (some t.column) := by
  unfold step at h
  split at h
  · cases h
  · split at h
    · exact supply_error h
    · exact dispatch_error h

theorem finish_error {s : State} {e : QueryError} (h : s.finish = .error e) :
    ∃ fault, e = .semantic fault none := by
  unfold finish at h
  grind

/-- What every accepted token preserves of the tokens before it and the state, a run preserves. -/
theorem run_extends {P : List Token → State → Prop}
    (hstep : ∀ before s t s', P before s → Step s t s' → P (before ++ [t]) s')
    (before : List Token) {ts : List Token} {s s' : State} (hs : P before s)
    (h : s.run ts = .ok s') : P (before ++ ts) s' := by
  induction ts generalizing before s with
  | nil =>
    obtain rfl := Except.ok.inj h
    simpa using hs
  | cons t ts ih =>
    rw [run_cons] at h
    cases hn : s.step t with
    | error e => simp [hn, bind, Except.bind] at h
    | ok next =>
      rw [hn] at h
      rw [List.append_cons]
      exact ih (before ++ [t]) (hstep before s t next hs (step_eq_ok_iff.1 hn)) h

theorem run_preserves {P : State → Prop} (hstep : ∀ s t s', P s → Step s t s' → P s')
    {s s' : State} {ts : List Token} (hs : P s) (h : s.run ts = .ok s') : P s' :=
  run_extends (fun _ => hstep) [] hs h

end State

end FieldQuery.Parser
