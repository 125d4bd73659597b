import FieldQuery.Proofs.Parser.Reworded
set_option autoImplicit false

/-! The parser with all groups on one stack that nothing keeps from being empty. Each use of the
stack is checked, and where it cannot go on the reading ends with a slip instead of an error. It
reads what the parser reads, so that there is never a slip. -/

namespace FieldQuery.Parser

/-- The uses of the stack that could fail: its depth, its innermost group or a group to close while
it is empty, whitespace that is dispatched, and no root at the end. -/
inductive Slip where
  | depth
  | cursor
  | pop
  | whitespace
  | root
  deriving DecidableEq, Repr

inductive Halt where
  | refused (e : QueryError)
  | slipped (slip : Slip)
  deriving DecidableEq, Repr

structure Stacked where
  stack : List Group
  forbidden : List Kind
  required : List Kind
  negateNext : Bool
  last : Option Kind
  deriving DecidableEq, Repr

namespace Stacked

def refuse {α : Type} (fault : Fault) (column : Option Nat) : Except Halt α :=
  .error (.refused (.semantic fault column))

def initial : Stacked := ⟨[.opened false], [], [], false, none⟩

def depth (m : Stacked) : Except Halt Nat :=
  if m.stack.length = 0 then .error (.slipped .depth) else .ok (m.stack.length - 1)

def cursor (m : Stacked) : Except Halt Group :=
  match m.stack with
  | [] => .error (.slipped .cursor)
  | top :: _ => .ok top

def setCursor (m : Stacked) (top : Group) : Stacked := { m with stack := top :: m.stack.tail }

def checkAdjacency (m : Stacked) (t : Token) : Except Halt Unit :=
  if m.required ≠ [] ∧ t.kind ∉ m.required then
    refuse (.unexpectedAmong t.kind m.required) (some t.column)
  else if t.kind ∈ m.forbidden then refuse (.unexpected t.kind) (some t.column)
  else .ok ()

/-- Opens a group. The log line about it computes the depth of the stack again. -/
def openGroup (m : Stacked) (t : Token) : Except Halt Stacked := do
  let depth ← m.depth
  if depth + 3 > maxDepth then refuse .tooDeep (some t.column)
  else
    let opened := { m with
      stack := .opened m.negateNext :: m.stack, negateNext := false,
      forbidden := afterOpenGroup }
    let _ ← opened.depth
    .ok opened

def closeGroup (m : Stacked) (t : Token) : Except Halt Stacked := do
  let depth ← m.depth
  if depth = 0 then refuse .tooManyClosed (some t.column)
  else match m.stack with
    | [] => .error (.slipped .pop)
    | group :: below =>
      if group.children = [] then refuse .emptyGroup (some t.column)
      else if group.nodeHeight > maxDepth then refuse .tooDeep (some t.column)
      else
        let closed := { m with stack := below }
        let _ ← closed.depth
        let outer ← closed.cursor
        .ok { closed.setCursor (outer.push group.toNode group.nodeHeight) with
          forbidden := afterCloseGroup }

def logicalOperator (m : Stacked) (t : Token) : Except Halt Stacked :=
  match Op.ofText? t.text with
  | none => refuse (.unknownOperator t.text) (some t.column)
  | some op => do
    let group ← m.cursor
    if group.children = [] then refuse (.missingOperand t.kind) (some t.column)
    else match group.op with
      | none => .ok { m.setCursor { group with op := some op } with forbidden := afterOperator }
      | some old =>
        if old = op then .ok { m with forbidden := afterOperator }
        else if group.nodeHeight + 1 > maxDepth then refuse .tooDeep (some t.column)
        else
          .ok { m.setCursor { group with
              op := some op, children := [.logical old group.children],
              height := group.height + 1 } with
            forbidden := afterOperator }

def expect (kind : Kind) : List Token → Except Halt (Token × List Token)
  | [] => refuse (.expectedAtEnd kind) none
  | t :: rest =>
    if t.kind = .whitespace then expect kind rest
    else if t.kind = kind then .ok (t, rest)
    else refuse (.expected kind t.kind) (some t.column)

def comparison (m : Stacked) (key : Token) (rest : List Token) :
    Except Halt (Stacked × List Token) := do
  let (_, rest) ← expect .comparator rest
  let (value, rest) ← expect .text rest
  let leaf := Node.comparison key.text value.text
  let top ← m.cursor
  let top := if m.negateNext then top.push (.negation leaf) 2 else top.push leaf 1
  .ok ({ m.setCursor top with negateNext := false, forbidden := afterComparison }, rest)

/-- One token, and for a comparison the tokens up to its value. -/
def dispatch (m : Stacked) (t : Token) (rest : List Token) : Except Halt (Stacked × List Token) :=
  if t.kind = .whitespace then .ok (m, rest)
  else do
    m.checkAdjacency t
    let m := { m with required := [], forbidden := [], last := some t.kind }
    match t.kind with
    | .whitespace => .error (.slipped .whitespace)
    | .openGroup => return (← m.openGroup t, rest)
    | .closeGroup => return (← m.closeGroup t, rest)
    | .text => m.comparison t rest
    | .logicalOperator => return (← m.logicalOperator t, rest)
    | .negator => .ok ({ m with required := negatable, negateNext := true }, rest)
    | .comparator => refuse (.unexpected t.kind) (some t.column)

def finish (m : Stacked) : Except Halt Node :=
  if m.negateNext then refuse (.endAfterNegator negatable) none
  else if m.last = some .logicalOperator then refuse .endAfterOperator none
  else do
    let depth ← m.depth
    if depth > 0 then refuse .unclosed none
    else match m.stack with
      | [] => .error (.slipped .root)
      | root :: _ =>
        if root.children = [] then refuse .emptyQuery none
        else if root.nodeHeight > maxDepth then refuse .tooDeep none
        else .ok root.toNode

theorem expect_eq_ok {kind : Kind} {ts rest : List Token} {t : Token}
    (h : expect kind ts = .ok (t, rest)) :
    ∃ pulled, ts = pulled ++ rest ∧ significant pulled = [t] ∧ t.kind = kind := by
  induction ts with
  | nil => cases h
  | cons u us ih =>
    unfold expect at h
    by_cases hw : u.kind = .whitespace
    · rw [if_pos hw] at h
      obtain ⟨pulled, rfl, hs, hk⟩ := ih h
      exact ⟨u :: pulled, rfl, by rw [significant_cons_of_eq hw, hs], hk⟩
    · rw [if_neg hw] at h
      by_cases hk : u.kind = kind
      · rw [if_pos hk] at h
        cases h
        exact ⟨[t], rfl, by rw [significant_cons_of_ne hw, significant_nil], hk⟩
      · rw [if_neg hk] at h
        cases h

theorem comparison_length {m m' : Stacked} {key : Token} {rest left : List Token}
    (h : m.comparison key rest = .ok (m', left)) : left.length ≤ rest.length := by
  unfold comparison at h
  cases hc : expect .comparator rest with
  | error halt => simp [hc, bind, Except.bind] at h
  | ok found =>
    obtain ⟨comparator, behind⟩ := found
    cases hv : expect .text behind with
    | error halt => simp [hc, hv, bind, Except.bind] at h
    | ok found =>
      obtain ⟨value, left⟩ := found
      obtain ⟨front, rfl, -, -⟩ := expect_eq_ok hc
      obtain ⟨more, rfl, -, -⟩ := expect_eq_ok hv
      cases ht : m.cursor with
      | error halt => simp [hc, hv, ht, bind, Except.bind] at h
      | ok top =>
        simp [hc, hv, ht, bind, Except.bind] at h
        obtain ⟨-, rfl⟩ := h
        simp only [List.length_append]
        omega

theorem beside_eq_ok {x : Except Halt Stacked} {m : Stacked} {rest left : List Token}
    (h : (do return (← x, rest)) = .ok (m, left)) : left = rest := by
  cases x with
  | error halt => cases h
  | ok m' => cases h; rfl

theorem dispatch_length {m m' : Stacked} {t : Token} {rest left : List Token}
    (h : m.dispatch t rest = .ok (m', left)) : left.length < (t :: rest).length := by
  suffices hle : left.length ≤ rest.length from Nat.lt_succ_of_le hle
  unfold dispatch at h
  by_cases hw : t.kind = .whitespace
  · rw [if_pos hw] at h
    cases h
    exact Nat.le_refl _
  rw [if_neg hw] at h
  cases hc : m.checkAdjacency t with
  | error halt => simp [hc, bind, Except.bind] at h
  | ok _ =>
    rw [hc] at h
    cases hk : t.kind with
    | whitespace => exact absurd hk hw
    | text =>
      simp only [hk] at h
      exact comparison_length h
    | negator =>
      simp only [hk] at h
      cases h
      exact Nat.le_refl _
    | comparator =>
      simp only [hk] at h
      cases h
    | _ =>
      simp only [hk] at h
      exact Nat.le_of_eq (congrArg List.length (beside_eq_ok h))

def read (m : Stacked) : List Token → Except Halt Node
  | [] => m.finish
  | t :: rest =>
    match h : m.dispatch t rest with
    | .error halt => .error halt
    | .ok (m, left) =>
      have := dispatch_length h
      m.read left
termination_by tokens => tokens.length
decreasing_by exact this

end Stacked

/-- The dispatches that lead from the start to a state, the tokens that they took and the tokens
still to come. -/
inductive Reaches : List Token → Stacked → List Token → Prop where
  | start (tokens : List Token) : Reaches [] .initial tokens
  | dispatch {before pulled rest left : List Token} {m m' : Stacked} {t : Token} :
      Reaches before m (t :: rest) → m.dispatch t rest = .ok (m', left) →
      t :: rest = pulled ++ left → Reaches (before ++ pulled) m' left

open Stacked

namespace State

def stacked (s : State) : Stacked :=
  ⟨s.top :: s.below, s.forbidden, s.required, s.negateNext, s.last⟩

theorem checkAdjacency_stacked (s : State) (t : Token) :
    s.stacked.checkAdjacency t = Except.bimap .refused id (s.checkAdjacency t) := by
  simp only [State.checkAdjacency, apply_ite (Except.bimap Halt.refused id)]
  rfl

theorem openGroup_stacked (s : State) (t : Token) :
    s.stacked.openGroup t = Except.bimap .refused stacked (s.openGroup t) := by
  simp only [State.openGroup, apply_ite (Except.bimap Halt.refused stacked)]
  rfl

theorem closeGroup_stacked (s : State) (t : Token) :
    s.stacked.closeGroup t = Except.bimap .refused stacked (s.closeGroup t) := by
  obtain ⟨top, below, forbidden, required, negateNext, last, awaited⟩ := s
  cases below with
  | nil => rfl
  | cons outer below =>
    simp only [State.closeGroup, apply_ite (Except.bimap Halt.refused stacked)]
    rfl

theorem logicalOperator_stacked (s : State) (t : Token) :
    s.stacked.logicalOperator t = Except.bimap .refused stacked (s.logicalOperator t) := by
  obtain ⟨⟨current, children, negated, height⟩, below, forbidden, required, negateNext, last,
    awaited⟩ := s
  unfold State.logicalOperator Stacked.logicalOperator
  cases Op.ofText? t.text with
  | none => rfl
  | some op =>
    cases current with
    | none =>
      simp only [apply_ite (Except.bimap Halt.refused stacked)]
      rfl
    | some old =>
      simp only [apply_ite (Except.bimap Halt.refused stacked)]
      rfl

theorem finish_stacked {s : State} (ha : s.awaited = none) :
    s.stacked.finish = Except.bimap .refused id s.finish := by
  obtain ⟨top, below, forbidden, required, negateNext, last, awaited⟩ := s
  obtain rfl : awaited = none := ha
  cases below with
  | nil =>
    simp only [State.finish, apply_ite (Except.bimap Halt.refused id)]
    rfl
  | cons outer below =>
    simp only [State.finish, apply_ite (Except.bimap Halt.refused id)]
    rfl

theorem stacked_beside {x : Except Halt Stacked} {y : Except QueryError State}
    (h : x = Except.bimap .refused stacked y) (rest : List Token) :
    (do return (← x, rest)) = Except.bimap .refused (fun next => (next.stacked, rest)) y := by
  subst h
  cases y <;> rfl

theorem dispatch_stacked (s : State) {t : Token} (hw : t.kind ≠ .whitespace)
    (ht : t.kind ≠ .text) (rest : List Token) :
    s.stacked.dispatch t rest =
      Except.bimap .refused (fun next => (next.stacked, rest)) (s.dispatch t) := by
  rw [Stacked.dispatch, if_neg hw, State.dispatch, checkAdjacency_stacked]
  refine Except.bimap_bind fun _ => ?_
  cases hk : t.kind with
  | whitespace => exact absurd hk hw
  | text => exact absurd hk ht
  | openGroup => exact stacked_beside (openGroup_stacked { s with
      required := [], forbidden := [], last := some .openGroup } t) rest
  | closeGroup => exact stacked_beside (closeGroup_stacked { s with
      required := [], forbidden := [], last := some .closeGroup } t) rest
  | logicalOperator => exact stacked_beside (logicalOperator_stacked { s with
      required := [], forbidden := [], last := some .logicalOperator } t) rest
  | negator => rfl
  | comparator => rfl

theorem expect_eq_error {s : State} {awaited : Awaited} {ts : List Token} {halt : Halt}
    (ha : s.awaited = some awaited) (h : expect awaited.kind ts = .error halt) :
    ∃ e, halt = .refused e ∧ s.conclude ts none = .error e := by
  induction ts with
  | nil =>
    cases h
    exact ⟨_, rfl, by simp [conclude_of_run (run_nil s), State.finish, ha]⟩
  | cons u us ih =>
    unfold expect at h
    by_cases hw : u.kind = .whitespace
    · rw [if_pos hw] at h
      obtain ⟨e, rfl, hc⟩ := ih h
      exact ⟨e, rfl, by rw [conclude, run_cons_of_step (s.step_whitespace hw)]; exact hc⟩
    · rw [if_neg hw] at h
      by_cases hk : u.kind = awaited.kind
      · rw [if_pos hk] at h
        cases h
      · rw [if_neg hk] at h
        have hstep : s.step u =
            .error (.semantic (.expected awaited.kind u.kind) (some u.column)) := by
          simp [step, hw, ha, supply, hk]
        exact ⟨_, (Except.error.inj h).symm, conclude_of_error (run_cons_of_error hstep us) none⟩

/-- A dispatch takes tokens as the parser does, up to the end of a comparison that it starts, or
ends with the parser's error. -/
inductive Dispatched (s : State) (tokens : List Token) :
    Except Halt (Stacked × List Token) → Prop
  | ok (pulled : List Token) {rest : List Token} {next : State} : tokens = pulled ++ rest →
      s.run pulled = .ok next → next.awaited = none → Dispatched s tokens (.ok (next.stacked, rest))
  | refused {e : QueryError} : s.conclude tokens none = .error e →
      Dispatched s tokens (.error (.refused e))

theorem conclude_append_of_run {s next : State} {pulled : List Token}
    (h : s.run pulled = .ok next) (rest : List Token) (stop : Option QueryError) :
    s.conclude (pulled ++ rest) stop = next.conclude rest stop := by
  rw [conclude, conclude, run_append_of_run h]

theorem Dispatched.append {s next : State} {pulled rest : List Token}
    {result : Except Halt (Stacked × List Token)} (hr : s.run pulled = .ok next)
    (h : Dispatched next rest result) : Dispatched s (pulled ++ rest) result := by
  cases h with
  | ok more hrest hmore ha =>
    subst hrest
    exact .ok (pulled ++ more) (List.append_assoc ..).symm
      ((run_append_of_run hr more).trans hmore) ha
  | refused hc => exact .refused ((conclude_append_of_run hr rest none).trans hc)

theorem run_of_supply {s next : State} {awaited : Awaited} {pulled : List Token} {t : Token}
    (ha : s.awaited = some awaited) (hs : significant pulled = [t]) (hk : t.kind ≠ .whitespace)
    (h : s.supply awaited t = .ok next) : s.run pulled = .ok next := by
  have hstep : s.step t = .ok next := by simp [step, hk, ha, h]
  rw [← run_significant, hs, run_cons_of_step hstep, run_nil]

theorem comparison_stacked {s : State} {key : Token}
    (ha : s.awaited = some (.comparator key.text)) (rest : List Token) :
    Dispatched s rest (s.stacked.comparison key rest) := by
  unfold Stacked.comparison
  cases hc : expect .comparator rest with
  | error halt =>
    obtain ⟨e, rfl, hconclude⟩ := expect_eq_error ha hc
    exact .refused hconclude
  | ok found =>
    obtain ⟨comparator, rest⟩ := found
    obtain ⟨pulled, rfl, hs, hk⟩ := expect_eq_ok hc
    let next : State := { s with awaited := some (.value key.text) }
    have hn : next.awaited = some (.value key.text) := rfl
    have hsupply : s.supply (.comparator key.text) comparator = .ok next := if_pos hk
    refine Dispatched.append (run_of_supply ha hs (by simp [hk]) hsupply) ?_
    cases hv : expect .text rest with
    | error halt =>
      obtain ⟨e, rfl, hconclude⟩ := expect_eq_error hn hv
      simp only [hv, bind, Except.bind]
      exact .refused hconclude
    | ok found =>
      obtain ⟨value, rest⟩ := found
      obtain ⟨more, rfl, hs, hk⟩ := expect_eq_ok hv
      have hsupply : next.supply (.value key.text) value =
          .ok (next.comparison key.text value.text) := if_pos hk
      have hr := run_of_supply hn hs (by simp [hk]) hsupply
      simp only [hv, bind, Except.bind]
      exact .ok more rfl hr rfl

theorem dispatched_text {s : State} {t : Token} (ha : s.awaited = none) (ht : t.kind = .text)
    (rest : List Token) : Dispatched s (t :: rest) (s.stacked.dispatch t rest) := by
  have hw : t.kind ≠ .whitespace := by simp [ht]
  have hstep := step_eq_dispatch hw ha
  cases hc : s.checkAdjacency t with
  | error e =>
    have hm : s.stacked.dispatch t rest = .error (.refused e) := by
      rw [Stacked.dispatch, if_neg hw, checkAdjacency_stacked, hc]
      rfl
    have hd : s.dispatch t = .error e := by
      rw [State.dispatch, hc]
      rfl
    rw [hm]
    exact .refused (conclude_of_error (run_cons_of_error (hstep.trans hd) rest) none)
  | ok _ =>
    let next : State := { s with
      required := [], forbidden := [], last := some .text,
      awaited := some (.comparator t.text) }
    have hm : s.stacked.dispatch t rest = next.stacked.comparison t rest := by
      rw [Stacked.dispatch, if_neg hw, checkAdjacency_stacked, hc]
      simp only [ht]
      rfl
    have hd : s.dispatch t = .ok next := by
      rw [State.dispatch, hc]
      simp only [ht]
      rfl
    have hr : s.run [t] = .ok next := run_cons_of_step (hstep.trans hd) []
    rw [hm]
    exact (comparison_stacked rfl rest).append hr

theorem Step.awaited_eq_none {s s' : State} {t : Token} (h : s.Step t s')
    (ha : s.awaited = none) (ht : t.kind ≠ .text) : s'.awaited = none := by
  cases h with
  | key hk => exact absurd hk ht
  | value hk => exact absurd hk ht
  | comparator _ hc => simp [ha] at hc
  | _ => exact ha

theorem dispatched {s : State} (ha : s.awaited = none) (t : Token) (rest : List Token) :
    Dispatched s (t :: rest) (s.stacked.dispatch t rest) := by
  by_cases hw : t.kind = .whitespace
  · have hd : s.stacked.dispatch t rest = .ok (s.stacked, rest) := if_pos hw
    have hr : s.run [t] = .ok s := run_cons_of_step (s.step_whitespace hw) []
    rw [hd]
    exact .ok [t] rfl hr ha
  by_cases ht : t.kind = .text
  · exact dispatched_text ha ht rest
  have hstep := step_eq_dispatch hw ha
  rw [dispatch_stacked s hw ht]
  cases hd : s.dispatch t with
  | error e => exact .refused (conclude_of_error (run_cons_of_error (hstep.trans hd) rest) none)
  | ok next =>
    have hr : s.run [t] = .ok next := run_cons_of_step (hstep.trans hd) []
    exact .ok [t] rfl hr ((step_dispatch hw ha hd).awaited_eq_none ha ht)

/-- The checked stack reads the trees and errors of the parser, and none of its uses fails. -/
theorem read_stacked {s : State} (ha : s.awaited = none) (tokens : List Token) :
    s.stacked.read tokens = Except.bimap .refused id (s.conclude tokens none) := by
  induction hn : tokens.length using Nat.strongRecOn generalizing s tokens with
  | ind n ih =>
    subst hn
    cases tokens with
    | nil => rw [Stacked.read, finish_stacked ha, conclude_of_run (run_nil s)]
    | cons t rest =>
      have hdispatched := dispatched ha t rest
      rw [Stacked.read]
      split
      · next halt hd =>
        rw [hd] at hdispatched
        cases hdispatched with
        | refused hc =>
          rw [hc]
          rfl
      · next m left hd =>
        have hlength := dispatch_length hd
        rw [hd] at hdispatched
        cases hdispatched with
        | ok pulled hrest hr hnone =>
          rw [ih left.length hlength hnone left rfl, hrest, conclude_append_of_run hr]

theorem exists_state_of_reaches {before rest : List Token} {m : Stacked}
    (h : Reaches before m rest) :
    ∃ s, initial.run before = .ok s ∧ s.awaited = none ∧ s.stacked = m := by
  induction h with
  | start => exact ⟨.initial, rfl, rfl, rfl⟩
  | @dispatch before pulled rest left m m' t _ hd hpulled ih =>
    obtain ⟨s, hr, ha, rfl⟩ := ih
    have hdispatched := dispatched ha t rest
    rw [hd] at hdispatched
    cases hdispatched with
    | @ok more _ next hmore hnext hnone =>
      obtain rfl : pulled = more := List.append_cancel_right (hpulled.symm.trans hmore)
      exact ⟨next, (run_append_of_run hr pulled).trans hnext, hnone, rfl⟩

end State

end FieldQuery.Parser
