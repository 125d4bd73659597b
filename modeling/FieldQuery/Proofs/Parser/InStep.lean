import Mathlib.Data.List.Forall2
import FieldQuery.Proofs.Parser.Stack
set_option autoImplicit false

/-! What the tokens that have been dispatched say about the state of the parser. The stack holds one
group for each `(` that has not been closed, and the root; a group with an operator has the operands
of that operator, but for one that is still awaited. -/

namespace FieldQuery

def kinds (tokens : List Token) : List Kind := (significant tokens).map Token.kind

section Kinds

variable {t : Token} (tokens : List Token)

theorem kinds_concat_of_eq (h : t.kind = .whitespace) : kinds (tokens ++ [t]) = kinds tokens := by
  simp [kinds, significant_cons_of_eq h]

theorem kinds_concat_of_ne (h : t.kind ≠ .whitespace) :
    kinds (tokens ++ [t]) = kinds tokens ++ [t.kind] := by
  simp [kinds, significant_cons_of_ne h]

theorem count_kinds_concat {k : Kind} (hk : k ≠ .whitespace) :
    (kinds (tokens ++ [t])).count k = (kinds tokens).count k + if t.kind = k then 1 else 0 := by
  by_cases hw : t.kind = .whitespace
  · simp [kinds_concat_of_eq _ hw, hw, hk.symm]
  · simp [kinds_concat_of_ne _ hw, List.count_singleton]

theorem getLast?_kinds_concat (h : t.kind ≠ .whitespace) :
    (kinds (tokens ++ [t])).getLast? = some t.kind := by
  simp [kinds_concat_of_ne _ h]

end Kinds

namespace Parser

/-- An operator, or `NOT` directly behind one, comes last, so that an operand has to follow. -/
def AwaitsOperand (tokens : List Token) : Prop :=
  [.logicalOperator] <:+ kinds tokens ∨ [.logicalOperator, .negator] <:+ kinds tokens

def unclosedFrom (front : List Token) (fronts : List (List Token)) :
    List Token → List (List Token)
  | [] => fronts
  | t :: tokens =>
    let fronts := match t.kind with
      | .openGroup => front :: fronts
      | .closeGroup => fronts.tail
      | _ => fronts
    unclosedFrom (front ++ [t]) fronts tokens

/-- The tokens in front of each `(` that has not been closed, the innermost first. -/
def unclosed (tokens : List Token) : List (List Token) := unclosedFrom [] [] tokens

theorem unclosed_concat (tokens : List Token) (t : Token) :
    unclosed (tokens ++ [t]) = match t.kind with
      | .openGroup => tokens :: unclosed tokens
      | .closeGroup => (unclosed tokens).tail
      | _ => unclosed tokens := by
  suffices h : ∀ front fronts, unclosedFrom front fronts (tokens ++ [t]) = match t.kind with
      | .openGroup => (front ++ tokens) :: unclosedFrom front fronts tokens
      | .closeGroup => (unclosedFrom front fronts tokens).tail
      | _ => unclosedFrom front fronts tokens from h [] []
  induction tokens with
  | nil =>
    intro front fronts
    cases ht : t.kind <;> simp [unclosedFrom, ht]
  | cons u tokens ih =>
    intro front fronts
    simp only [List.cons_append, unclosedFrom, ih]
    simp

namespace State

/-- One `(` has been read for each group that is open and for each that has been closed. -/
def Nested (before : List Token) (s : State) : Prop :=
  s.depth + (kinds before).count .closeGroup = (kinds before).count .openGroup

theorem Nested.step {before : List Token} {s s' : State} {t : Token} (h : Nested before s)
    (hs : s.Step t s') : Nested (before ++ [t]) s' := by
  unfold Nested depth at *
  rw [count_kinds_concat _ (by simp), count_kinds_concat _ (by simp)]
  cases hs with
  | openGroup ht =>
    simp [ht]
    omega
  | closeGroup ht _ _ hb =>
    simp [ht, hb] at h ⊢
    omega
  | value ht => simpa [ht, comparison] using h
  | whitespace ht => simpa [ht] using h
  | comparator ht => simpa [ht] using h
  | key ht => simpa [ht] using h
  | operator ht => simpa [ht] using h
  | negator ht => simpa [ht] using h

/-- What the last token leaves behind for the next one. Inside a comparison the kind of the key
stands for all tokens of the comparison. -/
structure Adjoins (before : List Token) (s : State) : Prop where
  required_eq : s.required = if s.awaited = none ∧ s.negateNext = true then negatable else []
  last_eq : s.last = if s.awaited = none then (kinds before).getLast? else some .text
  negateNext_iff : s.awaited = none → (s.negateNext = true ↔ s.last = some .negator)

theorem Adjoins.negateNext_eq_false {before : List Token} {s : State} {k : Kind}
    (h : Adjoins before s) (ha : s.awaited = none) (had : s.Admits k) (hk : k ∉ negatable) :
    s.negateNext = false := by
  cases hn : s.negateNext with
  | false => rfl
  | true =>
    have hreq : s.required = negatable := by simp [h.required_eq, ha, hn]
    rw [Admits, hreq] at had
    exact absurd (had.1.resolve_left (List.cons_ne_nil _ _)) hk

theorem Adjoins.getLast?_ne_negator {before : List Token} {s : State} {k : Kind}
    (h : Adjoins before s) (ha : s.awaited = none) (had : s.Admits k) (hk : k ∉ negatable) :
    (kinds before).getLast? ≠ some .negator := by
  have hn := h.negateNext_eq_false ha had hk
  have hlast : s.last = (kinds before).getLast? := by rw [h.last_eq, if_pos ha]
  intro hl
  rw [(h.negateNext_iff ha).2 (hlast.trans hl)] at hn
  cases hn

theorem Adjoins.step {before : List Token} {s s' : State} {t : Token} (h : Adjoins before s)
    (hs : s.Step t s') : Adjoins (before ++ [t]) s' := by
  by_cases hw : t.kind = .whitespace
  · obtain rfl : s = s' := Except.ok.inj ((s.step_whitespace hw).symm.trans (step_eq_ok_iff.2 hs))
    exact ⟨h.required_eq, by rw [kinds_concat_of_eq _ hw, h.last_eq], h.negateNext_iff⟩
  have hlast := getLast?_kinds_concat before hw
  cases hs with
  | whitespace ht => exact absurd ht hw
  | comparator ht ha => exact ⟨by simp [h.required_eq, ha], by simp [h.last_eq, ha], nofun⟩
  | value ht ha =>
    rw [ht] at hlast
    exact ⟨by simp [comparison, h.required_eq, ha], by simp [comparison, h.last_eq, ha, hlast],
      by simp [comparison, h.last_eq, ha]⟩
  | key ht => exact ⟨by simp, by simp, nofun⟩
  | openGroup ht ha =>
    rw [ht] at hlast
    exact ⟨by simp, by simp [ha, hlast], by simp⟩
  | closeGroup ht ha had =>
    rw [ht] at hlast
    have hn := h.negateNext_eq_false ha had (by simp [negatable])
    exact ⟨by simp [hn], by simp [ha, hlast], by simp [hn]⟩
  | operator ht ha had =>
    rw [ht] at hlast
    have hn := h.negateNext_eq_false ha had (by simp [negatable])
    exact ⟨by simp [hn], by simp [ha, hlast], by simp [hn]⟩
  | negator ht ha =>
    rw [ht] at hlast
    exact ⟨by simp [ha], by simp [ha, hlast], by simp⟩

end State

theorem awaitsOperand_concat_operator {t : Token} (ht : t.kind = .logicalOperator)
    (tokens : List Token) : AwaitsOperand (tokens ++ [t]) := by
  rw [AwaitsOperand, kinds_concat_of_ne _ (by simp [ht]), ht]
  exact .inl (List.suffix_append ..)

theorem AwaitsOperand.concat_negator {tokens : List Token} {t : Token} (h : AwaitsOperand tokens)
    (hlast : (kinds tokens).getLast? ≠ some .negator) (ht : t.kind = .negator) :
    AwaitsOperand (tokens ++ [t]) := by
  rw [AwaitsOperand, kinds_concat_of_ne _ (by simp [ht]), ht]
  rcases h with ⟨front, hf⟩ | ⟨front, hf⟩
  · exact .inr ⟨front, by simp [← hf]⟩
  · exact absurd (by simp [← hf]) hlast

structure Grown (g : Group) (tokens : List Token) : Prop where
  children_ne_nil : g.op ≠ none → g.children ≠ []
  two_le_length : g.op ≠ none → ¬ AwaitsOperand tokens → 2 ≤ g.children.length

theorem Grown.opened (negated : Bool) (tokens : List Token) : Grown (.opened negated) tokens :=
  ⟨fun h => absurd rfl h, fun h => absurd rfl h⟩

theorem Grown.push {g : Group} {tokens : List Token} (h : g.op ≠ none → g.children ≠ [])
    (node : Node) (height : Nat) : Grown (g.push node height) tokens := by
  refine ⟨fun _ => by simp [Group.push], fun hop _ => ?_⟩
  have hpos : 0 < g.children.length := List.length_pos_iff.2 (h hop)
  simp only [Group.push, List.length_append, List.length_singleton]
  omega

theorem Group.children_combine_ne_nil {g : Group} (h : g.children ≠ []) (op : Op) :
    (g.combine op).children ≠ [] := by
  unfold Group.combine
  split
  · exact h
  · split
    · exact h
    · simp

namespace State

/-- Each group around the innermost one goes with the tokens up to the `(` of the group inside. -/
structure Holds (before : List Token) (s : State) : Prop where
  children_ne_nil : s.top.op ≠ none → s.top.children ≠ []
  grown_top : s.awaited = none → Grown s.top before
  grown_below : List.Forall₂ Grown s.below (unclosed before)

theorem Holds.step {before : List Token} {s s' : State} {t : Token} (h : Holds before s)
    (hadjoins : Adjoins before s) (hs : s.Step t s') : Holds (before ++ [t]) s' := by
  obtain ⟨hchildren, htop, hbelow⟩ := h
  have hunclosed := unclosed_concat before t
  cases hs with
  | whitespace ht =>
    rw [ht] at hunclosed
    have hawaits : AwaitsOperand (before ++ [t]) = AwaitsOperand before := by
      rw [AwaitsOperand, AwaitsOperand, kinds_concat_of_eq _ ht]
    refine ⟨hchildren, fun ha => ⟨hchildren, fun hop hno => ?_⟩, hunclosed ▸ hbelow⟩
    exact (htop ha).two_le_length hop (hawaits ▸ hno)
  | comparator ht =>
    rw [ht] at hunclosed
    exact ⟨hchildren, nofun, hunclosed ▸ hbelow⟩
  | @value key ht =>
    rw [ht] at hunclosed
    have hgrown : Grown (s.comparison key t.text).top (before ++ [t]) := by
      unfold comparison
      split <;> exact .push hchildren _ _
    exact ⟨hgrown.children_ne_nil, fun _ => hgrown, hunclosed ▸ hbelow⟩
  | key ht =>
    rw [ht] at hunclosed
    exact ⟨hchildren, nofun, hunclosed ▸ hbelow⟩
  | openGroup ht ha =>
    rw [ht] at hunclosed
    refine ⟨fun hop => absurd rfl hop, fun _ => .opened .., ?_⟩
    rw [hunclosed]
    exact .cons (htop ha) hbelow
  | @closeGroup outer _ ht _ _ hb =>
    rw [ht] at hunclosed
    rw [hb] at hbelow
    cases hfronts : unclosed before with
    | nil =>
      rw [hfronts] at hbelow
      cases hbelow
    | cons front fronts =>
      rw [hfronts] at hunclosed hbelow
      obtain ⟨houter, hbelow⟩ := List.forall₂_cons.1 hbelow
      have hgrown : Grown (outer.push s.top.toNode s.top.nodeHeight) (before ++ [t]) :=
        .push houter.children_ne_nil _ _
      exact ⟨hgrown.children_ne_nil, fun _ => hgrown, hunclosed ▸ hbelow⟩
  | operator ht ha _ _ hc =>
    rw [ht] at hunclosed
    have hcombine := Group.children_combine_ne_nil hc
    exact ⟨fun _ => hcombine _, fun _ => ⟨fun _ => hcombine _, fun _ hawaits =>
      absurd (awaitsOperand_concat_operator ht before) hawaits⟩, hunclosed ▸ hbelow⟩
  | negator ht ha had =>
    rw [ht] at hunclosed
    -- A second `NOT` is refused, so an operand that is awaited here is still awaited behind this one.
    have hlast := hadjoins.getLast?_ne_negator ha had (by simp [negatable])
    refine ⟨hchildren, fun _ => ⟨hchildren, fun hop hno => ?_⟩, hunclosed ▸ hbelow⟩
    exact (htop ha).two_le_length hop fun hawaits => hno (hawaits.concat_negator hlast ht)

theorem follows_run {before : List Token} {s : State} (h : initial.run before = .ok s) :
    Nested before s ∧ Adjoins before s ∧ Holds before s := by
  refine run_extends (P := fun before s => Nested before s ∧ Adjoins before s ∧ Holds before s)
    (fun before s t s' hs ht => ?_) [] ?_ h
  · obtain ⟨hnested, hadjoins, hholds⟩ := hs
    exact ⟨hnested.step ht, hadjoins.step ht, hholds.step hadjoins ht⟩
  · exact ⟨rfl, ⟨rfl, rfl, fun _ => by simp [initial]⟩,
      ⟨fun hop => absurd rfl hop, fun _ => .opened .., .nil⟩⟩

end State

/-- The state behind the tokens `before`, which all have been dispatched. -/
structure InStep (before : List Token) (m : Stacked) : Prop where
  stack_ne_nil : m.stack ≠ []
  length_add : m.stack.length + (kinds before).count .closeGroup =
    1 + (kinds before).count .openGroup
  negateNext_iff_required : m.negateNext = true ↔ m.required = negatable
  negateNext_iff_last : m.negateNext = true ↔ (kinds before).getLast? = some .negator
  last_eq : m.last = (kinds before).getLast?
  /-- The innermost group goes with all tokens, and each other one with those in front of the `(`
  of the group above it. -/
  grown : List.Forall₂ Grown m.stack (before :: unclosed before)

theorem inStep_of_run {before : List Token} {s : State} (hr : State.initial.run before = .ok s)
    (ha : s.awaited = none) : InStep before s.stacked := by
  obtain ⟨hnested, hadjoins, hholds⟩ := State.follows_run hr
  have hlast : s.last = (kinds before).getLast? := by rw [hadjoins.last_eq, if_pos ha]
  constructor
  case stack_ne_nil => exact List.cons_ne_nil _ _
  case length_add =>
    simp only [State.Nested, State.depth] at hnested
    simp only [State.stacked, List.length_cons]
    omega
  case negateNext_iff_required =>
    have hreq := hadjoins.required_eq
    cases hn : s.negateNext <;> simp [State.stacked, hn, hreq, ha, negatable]
  case negateNext_iff_last =>
    rw [← hlast]
    exact hadjoins.negateNext_iff ha
  case last_eq => exact hlast
  case grown => exact .cons (hholds.grown_top ha) hholds.grown_below

/-- Between two tokens that it dispatches the parser is in step with the tokens behind it. So no use
of the stack fails, and with these uses checked it reads the same trees and refuses with the same
errors. -/
theorem stack_in_step :
    (∀ before s, State.initial.run before = .ok s → s.awaited = none →
      InStep before s.stacked) ∧
    (∀ before m rest, Reaches before m rest → InStep before m) ∧
    (∀ before m t rest slip, Reaches before m (t :: rest) →
      m.dispatch t rest ≠ .error (.slipped slip)) ∧
    (∀ before m slip, Reaches before m [] → m.finish ≠ .error (.slipped slip)) ∧
    ∀ tokens, Stacked.initial.read tokens = Except.bimap .refused id (parseTokens tokens) := by
  refine ⟨fun _ _ => inStep_of_run, fun before m rest h => ?_, ?_, ?_, fun tokens => ?_⟩
  · obtain ⟨s, hr, ha, rfl⟩ := State.exists_state_of_reaches h
    exact inStep_of_run hr ha
  · intro before m t rest slip h hd
    obtain ⟨s, -, ha, rfl⟩ := State.exists_state_of_reaches h
    have hdispatched := State.dispatched ha t rest
    rw [hd] at hdispatched
    cases hdispatched
  · intro before m slip h hf
    obtain ⟨s, -, ha, rfl⟩ := State.exists_state_of_reaches h
    rw [State.finish_stacked ha] at hf
    cases hs : s.finish <;> simp [hs, Except.bimap] at hf
  · rw [parseTokens_conclude]
    exact State.read_stacked (s := .initial) rfl tokens

theorem stack_in_step_awaiting :
    let front : List Token := [⟨.text, ['a'], 0⟩, ⟨.comparator, [':'], 1⟩, ⟨.text, ['1'], 2⟩,
      ⟨.logicalOperator, "AND".toList, 4⟩, ⟨.negator, "NOT".toList, 8⟩]
    let tokens : List Token := front ++ [⟨.openGroup, ['('], 12⟩, ⟨.text, ['b'], 13⟩,
      ⟨.comparator, [':'], 14⟩, ⟨.text, ['2'], 15⟩, ⟨.logicalOperator, "OR".toList, 17⟩]
    ∃ m, Reaches tokens m [] ∧ InStep tokens m ∧
      m.stack.map (fun g => (g.op, g.children.length)) = [(some .or, 1), (some .and, 1)] ∧
      unclosed tokens = [front] ∧ AwaitsOperand tokens ∧ AwaitsOperand front ∧
      Stacked.initial.read tokens =
        .error (.refused (.semantic .endAfterOperator none)) := by
  intro front tokens
  have h : ∃ m, Reaches tokens m [] ∧
      m.stack.map (fun g => (g.op, g.children.length)) = [(some .or, 1), (some .and, 1)] := by
    have h1 := (Reaches.start tokens).dispatch rfl (rfl : _ = [_, _, _] ++ _)
    have h2 := h1.dispatch rfl (rfl : _ = [_] ++ _)
    have h3 := h2.dispatch rfl (rfl : _ = [_] ++ _)
    have h4 := h3.dispatch rfl (rfl : _ = [_] ++ _)
    have h5 := h4.dispatch rfl (rfl : _ = [_, _, _] ++ _)
    have h6 := h5.dispatch rfl (rfl : _ = [_] ++ _)
    exact ⟨_, h6, rfl⟩
  obtain ⟨m, hm, hstack⟩ := h
  obtain ⟨-, hin, -, -, hread⟩ := stack_in_step
  refine ⟨m, hm, hin _ _ _ hm, hstack, rfl, ?_, ?_, ?_⟩
  · exact .inl (by decide)
  · exact .inr (by decide)
  · rw [hread]
    rfl

end Parser

end FieldQuery
