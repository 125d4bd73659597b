import FieldQuery.Proofs.Cursor.Advance
import FieldQuery.Proofs.Parser.Step
set_option autoImplicit false

namespace FieldQuery.Parser

open Cursor

section

variable {σ : Type} [Cursor σ]

/-- What comes of a reading, and where it leaves the cursor. -/
inductive Outcome (s : State) (c : σ) : Except QueryError Node → σ → Prop where
  | refused {before after : List Token} {t : Token} {reached : State} {e : QueryError} :
      tokens c = before ++ t :: after → s.run before = .ok reached → reached.step t = .error e →
      Outcome s c (.error e) (advance (before.length + 1) c)
  | ended {reached : State} {result : Except QueryError Node} : s.run (tokens c) = .ok reached →
      stop c = none → reached.finish = result →
      Outcome s c result (advance ((tokens c).length + 1) c)
  | failed {reached : State} {e : QueryError} : s.run (tokens c) = .ok reached →
      stop c = some e → Outcome s c (.error e) (advance ((tokens c).length + 1) c)

theorem Outcome.cons {s s' : State} {c c' stopped : σ} {result : Except QueryError Node}
    {t : Token} (hn : Cursor.next c = (.ok (some t), c')) (hs : s.step t = .ok s')
    (h : Outcome s' c' result stopped) : Outcome s c result stopped := by
  have ht := tokens_token hn
  have hl : (tokens c).length = (tokens c').length + 1 := congrArg List.length ht
  have hrun : ∀ ts, s.run (t :: ts) = s'.run ts := State.run_cons_of_step hs
  cases h with
  | @refused before after u reached e htokens hr hf =>
    rw [htokens, ← List.cons_append] at ht
    rw [← advance_succ_of_next hn]
    exact .refused ht ((hrun before).trans hr) hf
  | ended hr hstop hf =>
    rw [← advance_succ_of_next hn, ← hl]
    exact .ended (by rw [ht, hrun, hr]) ((stop_token hn).trans hstop) hf
  | failed hr hstop =>
    rw [← advance_succ_of_next hn, ← hl]
    exact .failed (by rw [ht, hrun, hr]) ((stop_token hn).trans hstop)

theorem outcome_of_readWithin {fuel : Nat} {s : State} {c stopped : σ}
    {result : Except QueryError Node} (hl : left c < fuel)
    (h : readWithin fuel s c = (result, stopped)) : Outcome s c result stopped := by
  induction fuel generalizing s c with
  | zero => omega
  | succ fuel ih =>
    match hn : Cursor.next c with
    | (.ok (some t), c') =>
      have hlt := left_next hn
      cases hs : s.step t with
      | error e =>
        simp only [readWithin, hn, hs, Prod.mk.injEq] at h
        obtain ⟨rfl, rfl⟩ := h
        have ht : tokens c = [] ++ t :: tokens c' := tokens_token hn
        have hadvance : advance 1 c = c' := advance_succ_of_next hn 0
        rw [← hadvance]
        exact .refused ht (State.run_nil s) hs
      | ok s' =>
        simp only [readWithin, hn, hs] at h
        exact (ih (by omega) h).cons hn hs
    | (.ok none, c') =>
      simp only [readWithin, hn, Prod.mk.injEq] at h
      obtain ⟨hf, rfl⟩ := h
      have ht : tokens c = [] := by simp [tokens, drain_ended hn]
      have hstop : stop c = none := by simp [stop, drain_ended hn]
      have hadvance : advance ((tokens c).length + 1) c = c' := by rw [ht]; simp [advance, hn]
      rw [← hadvance]
      exact .ended (by rw [ht]; rfl) hstop hf
    | (.error e, c') =>
      simp only [readWithin, hn, Prod.mk.injEq] at h
      obtain ⟨rfl, rfl⟩ := h
      have ht : tokens c = [] := by simp [tokens, drain_failed hn]
      have hstop : stop c = some e := by simp [stop, drain_failed hn]
      have hadvance : advance ((tokens c).length + 1) c = c' := by rw [ht]; simp [advance, hn]
      rw [← hadvance]
      exact .failed (by rw [ht]; rfl) hstop

theorem outcome_of_read {c stopped : σ} {result : Except QueryError Node}
    (h : read c = (result, stopped)) : Outcome .initial c result stopped :=
  outcome_of_readWithin (by omega) h

theorem exists_advance (c : σ) : ∃ moves, (read c).2 = advance moves c := by
  obtain ⟨result, stopped, h⟩ : ∃ result stopped, read c = (result, stopped) := ⟨_, _, rfl⟩
  rw [h]
  cases outcome_of_read h with
  | refused _ _ _ => exact ⟨_, rfl⟩
  | ended _ _ _ => exact ⟨_, rfl⟩
  | failed _ _ => exact ⟨_, rfl⟩

variable [Lexical σ] {c stopped : σ} {fault : Fault}

theorem stands_of_read [Lawful σ] {column : Nat}
    (h : read c = (.error (.semantic fault (some column)), stopped)) :
    ∃ before t s, tokens c = before ++ t :: tokens stopped ∧ current stopped = some t ∧
      t.column = column ∧ State.initial.run before = .ok s ∧
      s.step t = .error (.semantic fault (some column)) := by
  cases outcome_of_read h with
  | @refused before after t s _ ht hr hs =>
    obtain ⟨_, he⟩ := State.step_error hs
    simp only [QueryError.semantic.injEq, Option.some.injEq] at he
    refine ⟨before, t, s, ?_, ?_, he.2.symm, hr, hs⟩
    · rw [(gives_advance _ c).1, ht]
      simp
    · rw [current_advance, ht]
      simp
  | ended _ _ hf =>
    obtain ⟨_, he⟩ := State.finish_error hf
    simp at he
  | failed _ hstop =>
    obtain ⟨_, _, he⟩ := Lexical.recognition_of_stop hstop
    cases he

theorem ends_of_read {result : Except QueryError Node} (h : read c = (result, stopped))
    (hc : ∀ e, result = .error e → e.column = none) :
    stop c = none ∧ stopped = advance ((tokens c).length + 1) c ∧
      ∃ s, State.initial.run (tokens c) = .ok s ∧ s.finish = result := by
  cases outcome_of_read h with
  | refused _ _ hs =>
    obtain ⟨_, rfl⟩ := State.step_error hs
    cases hc _ rfl
  | @ended s _ hr hstop hf => exact ⟨hstop, rfl, s, hr, hf⟩
  | failed _ hstop =>
    obtain ⟨_, _, rfl⟩ := Lexical.recognition_of_stop hstop
    cases hc _ rfl

end

section

variable {ts : List Token} {fault : Fault} {cursor : Replay}

theorem refused_of_read {column : Nat}
    (h : read (Replay.ofList ts) = (.error (.semantic fault (some column)), cursor)) :
    ∃ before t s, ts = before ++ t :: cursor.rest ∧ cursor.current = some t ∧ t.column = column ∧
      State.initial.run before = .ok s ∧
      s.step t = .error (.semantic fault (some column)) := by
  have hstands := stands_of_read h
  rwa [(Replay.gives_rest _).1, (Replay.gives_rest cursor).1] at hstands

theorem ended_of_read
    (h : read (Replay.ofList ts) = (.error (.semantic fault none), cursor)) :
    cursor.rest = [] ∧ ∃ s, State.initial.run ts = .ok s ∧
      s.finish = .error (.semantic fault none) := by
  obtain ⟨-, rfl, s, hr, hf⟩ := ends_of_read h (by rintro _ ⟨⟩; rfl)
  rw [← (Replay.gives_rest _).1, (gives_advance _ _).1]
  rw [(Replay.gives_rest _).1] at hr
  exact ⟨by simp, s, hr, hf⟩

end

end FieldQuery.Parser
