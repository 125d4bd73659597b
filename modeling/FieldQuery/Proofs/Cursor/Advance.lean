import FieldQuery.Proofs.Cursor.Lawful
set_option autoImplicit false

namespace FieldQuery

namespace Cursor

variable {σ : Type} [Cursor σ]

def advance : Nat → σ → σ
  | 0, s => s
  | moves + 1, s => advance moves (next s).2

theorem advance_succ_of_next {s s' : σ} {t : Token} (h : next s = (.ok (some t), s'))
    (moves : Nat) : advance (moves + 1) s = advance moves s' := by
  rw [advance, h]

theorem advance_add (moves more : Nat) (s : σ) :
    advance (moves + more) s = advance more (advance moves s) := by
  induction moves generalizing s with
  | zero => rw [Nat.zero_add, advance]
  | succ moves ih => rw [Nat.succ_add, advance, ih, advance]

/-- A cursor behind its last token: it shows nothing and gives `answer` at every move. -/
def Stays (answer : Except QueryError (Option Token)) (s : σ) : Prop :=
  ∀ moves, current (advance moves s) = none ∧ (next (advance moves s)).1 = answer

section Lawful

variable [Lawful σ]

theorem gives_advance (moves : Nat) (s : σ) :
    tokens (advance moves s) = (tokens s).drop moves ∧ stop (advance moves s) = stop s := by
  induction moves generalizing s with
  | zero => exact ⟨rfl, rfl⟩
  | succ moves ih =>
    obtain ⟨ht, hs⟩ := gives_next s
    rw [advance, (ih _).1, (ih _).2, ht, hs, List.drop_tail]
    exact ⟨rfl, rfl⟩

theorem reset_advance (moves : Nat) (s : σ) : reset (advance moves s) = reset s := by
  induction moves generalizing s with
  | zero => rfl
  | succ moves ih => rw [advance, ih, Lawful.reset_next]

theorem next_advance (moves : Nat) (s : σ) :
    (next (advance moves s)).1 = given (tokens s)[moves]? (stop s) := by
  rw [next_given, (gives_advance moves s).1, (gives_advance moves s).2, List.head?_drop]

theorem current_advance (moves : Nat) (s : σ) :
    current (advance (moves + 1) s) = (tokens s)[moves]? := by
  rw [advance_add]
  change current (next (advance moves s)).2 = _
  rw [Lawful.current_next, next_advance, landed_given]

theorem stays_advance (s : σ) : Stays (given none (stop s)) (advance ((tokens s).length + 1) s) := by
  intro moves
  rw [← advance_add, next_advance, Nat.add_right_comm, current_advance]
  have hlast : (tokens s)[(tokens s).length + moves]? = none :=
    List.getElem?_eq_none (Nat.le_add_right _ _)
  have hbehind : (tokens s)[(tokens s).length + moves + 1]? = none :=
    List.getElem?_eq_none (by omega)
  rw [hlast, hbehind]
  exact ⟨rfl, rfl⟩

end Lawful

/-- Cursors that fail with a recognition error or not at all. -/
class Lexical (σ : Type) [Cursor σ] : Prop where
  recognition_of_stop : ∀ {s : σ} {e : QueryError}, stop s = some e →
    ∃ input offset, e = .recognition input offset

end Cursor

open Cursor

instance : Lexical Tokenizer where
  recognition_of_stop {s e} h := by
    induction s using Cursor.induction with
    | token s s' t hn ih => exact ih (stop_token hn ▸ h)
    | ended s s' hn => simp [stop, drain_ended hn] at h
    | failed s s' e' hn =>
      simp only [stop, drain_failed hn, Option.some.injEq] at h
      subst h
      by_cases hr : s.rest = []
      · simp [Tokenizer.next_nil hr] at hn
      · cases hf : Lexeme.first? s.rest with
        | none =>
          rw [Tokenizer.next_none hr hf] at hn
          cases hn
          exact ⟨_, _, rfl⟩
        | some found => simp [Tokenizer.next_some hf] at hn

instance : Lexical Replay where
  recognition_of_stop {s e} h := by
    rw [(Replay.gives_rest s).2] at h
    cases h

instance {σ : Type} [Cursor σ] [Lexical σ] : Lexical (SkipWhitespace σ) where
  recognition_of_stop {s e} h := by
    have hs := (SkipWhitespace.gives_significant s.inner).2
    exact Lexical.recognition_of_stop (hs.symm.trans h)

end FieldQuery
