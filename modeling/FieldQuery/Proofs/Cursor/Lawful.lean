import FieldQuery.Proofs.Tokenizer
set_option autoImplicit false

namespace FieldQuery

namespace Cursor

/-- What a move gives: the token that comes next or, behind the last one, the end or the error. -/
def given : Option Token → Option QueryError → Except QueryError (Option Token)
  | some t, _ => .ok (some t)
  | none, none => .ok none
  | none, some e => .error e

def landed : Except QueryError (Option Token) → Option Token
  | .ok t => t
  | .error _ => none

theorem landed_given (t : Option Token) (stop : Option QueryError) :
    landed (given t stop) = t := by
  cases t with
  | some t => rfl
  | none => cases stop <;> rfl

variable {σ : Type} [Cursor σ]

class Lawful (σ : Type) [Cursor σ] : Prop where
  current_next : ∀ s : σ, current (next s).2 = landed (next s).1
  next_stays : ∀ s : σ, landed (next s).1 = none → next (next s).2 = next s
  reset_next : ∀ s : σ, reset (next s).2 = reset s
  reset_reset : ∀ s : σ, reset (reset s) = reset s
  current_reset : ∀ s : σ, current (reset s) = none

theorem next_given (s : σ) : (next s).1 = given (tokens s).head? (stop s) := by
  match h : next s with
  | (.ok (some t), s') => simp [tokens_token h, given]
  | (.ok none, s') => simp [tokens, stop, drain_ended h, given]
  | (.error e, s') => simp [tokens, stop, drain_failed h, given]

theorem gives_next [Lawful σ] (s : σ) :
    tokens (next s).2 = (tokens s).tail ∧ stop (next s).2 = stop s := by
  match h : next s with
  | (.ok (some t), s') =>
    rw [tokens_token h, stop_token h]
    exact ⟨rfl, rfl⟩
  | (.ok none, s') =>
    have hs := Lawful.next_stays s (by rw [h]; rfl)
    rw [h] at hs
    simp [tokens, stop, drain_ended h, drain_ended hs]
  | (.error e, s') =>
    have hs := Lawful.next_stays s (by rw [h]; rfl)
    rw [h] at hs
    simp [tokens, stop, drain_failed h, drain_failed hs]

end Cursor

open Cursor

namespace Tokenizer

theorem next_lands (s : Tokenizer) : (Cursor.next s).2.input = s.input ∧
    (Cursor.next s).2.current = landed (Cursor.next s).1 ∧
    (landed (Cursor.next s).1 = none → Cursor.next (Cursor.next s).2 = Cursor.next s) := by
  by_cases hr : s.rest = []
  · have hn := next_nil hr
    have hs : Cursor.next { s with current := none } = (.ok none, { s with current := none }) :=
      next_nil hr
    rw [hn]
    exact ⟨rfl, rfl, fun _ => hs⟩
  · cases hf : Lexeme.first? s.rest with
    | none =>
      have hn := next_none hr hf
      have hs : Cursor.next { s with current := none } =
          (.error (.recognition s.input s.column), { s with current := none }) := next_none hr hf
      rw [hn]
      exact ⟨rfl, rfl, fun _ => hs⟩
    | some found =>
      have hn := next_some hf
      rw [hn]
      exact ⟨rfl, rfl, nofun⟩

instance : Lawful Tokenizer where
  current_next s := (next_lands s).2.1
  next_stays s := (next_lands s).2.2
  reset_next s := congrArg ofText (next_lands s).1
  reset_reset _ := rfl
  current_reset _ := rfl

end Tokenizer

namespace Replay

theorem next_lands (s : Replay) : (Cursor.next s).2.tokens = s.tokens ∧
    (Cursor.next s).2.current = landed (Cursor.next s).1 ∧
    (landed (Cursor.next s).1 = none → Cursor.next (Cursor.next s).2 = Cursor.next s) := by
  cases hr : s.rest with
  | nil => simp [Cursor.next, next, hr, landed]
  | cons t rest => simp [Cursor.next, next, hr, landed]

instance : Lawful Replay where
  current_next s := (next_lands s).2.1
  next_stays s := (next_lands s).2.2
  reset_next s := congrArg ofList (next_lands s).1
  reset_reset _ := rfl
  current_reset _ := rfl

end Replay

namespace SkipWhitespace

variable {σ : Type} [Cursor σ]

theorem next_of_landed_eq_none {s : σ} (h : landed (Cursor.next s).1 = none) :
    Cursor.next (SkipWhitespace.mk s) =
      ((Cursor.next s).1, SkipWhitespace.mk (Cursor.next s).2) := by
  match hn : Cursor.next s with
  | (.ok (some t), s') => simp [hn, landed] at h
  | (.ok none, s') => simp [Cursor.next, nextWithin, hn]
  | (.error e, s') => simp [Cursor.next, nextWithin, hn]

variable [Lawful σ]

theorem exists_next (s : σ) : ∃ front, Cursor.next (SkipWhitespace.mk s) =
      ((Cursor.next front).1, SkipWhitespace.mk (Cursor.next front).2) ∧
    Cursor.reset front = Cursor.reset s ∧
    ∀ t ∈ landed (Cursor.next front).1, t.kind ≠ .whitespace := by
  induction s using Cursor.induction with
  | token s s' t h ih =>
    by_cases ht : t.kind = .whitespace
    · obtain ⟨front, hn, hr, hk⟩ := ih
      have hs := Lawful.reset_next s
      rw [h] at hs
      exact ⟨front, (next_of_whitespace h ht).trans hn, hr.trans hs, hk⟩
    · have hn := next_of_significant h ht
      exact ⟨s, by rw [hn, h], rfl, by simpa [h, landed] using ht⟩
  | ended s s' h =>
    exact ⟨s, next_of_landed_eq_none (by rw [h]; rfl), rfl, by simp [h, landed]⟩
  | failed s s' e h =>
    exact ⟨s, next_of_landed_eq_none (by rw [h]; rfl), rfl, by simp [h, landed]⟩

instance : Lawful (SkipWhitespace σ) where
  current_next s := by
    obtain ⟨front, hn, -, hk⟩ := exists_next s.inner
    have hc := Lawful.current_next front
    rw [hn]
    change (Cursor.current (Cursor.next front).2).filter _ = _
    rw [hc]
    cases hl : landed (Cursor.next front).1 with
    | none => rfl
    | some t => simp [hk t (by rw [hl]; rfl)]
  next_stays s h := by
    obtain ⟨front, hn, -, -⟩ := exists_next s.inner
    rw [hn] at h ⊢
    have hs := Lawful.next_stays front h
    rw [← hs] at h
    rw [next_of_landed_eq_none h, hs]
  reset_next s := by
    obtain ⟨front, hn, hr, -⟩ := exists_next s.inner
    rw [hn]
    exact congrArg mk ((Lawful.reset_next front).trans hr)
  reset_reset s := congrArg mk (Lawful.reset_reset s.inner)
  current_reset s := by
    change (Cursor.current (Cursor.reset s.inner)).filter _ = none
    rw [Lawful.current_reset]
    rfl

end SkipWhitespace

end FieldQuery
