import FieldQuery.QueryError
set_option autoImplicit false

/-! Sources of tokens. A cursor shows the token it stands on, moves one token forward and can be
put back to the start. The bound `left` says that no cursor goes on for ever: every token that
`next` gives makes it smaller. -/

namespace FieldQuery

class Cursor (σ : Type) where
  current : σ → Option Token
  /-- Moves forward; `none` at the end. An error leaves the cursor where it is. -/
  next : σ → Except QueryError (Option Token) × σ
  reset : σ → σ
  /-- At least the number of tokens still to come. -/
  left : σ → Nat
  left_next : ∀ {s s' : σ} {t : Token}, next s = (.ok (some t), s') → left s' < left s

namespace Cursor

variable {σ : Type} [Cursor σ]

def drainWithin : Nat → σ → (List Token × Option QueryError) × σ
  | 0, s => (([], none), s)
  | fuel + 1, s =>
    match next s with
    | (.ok (some t), s) =>
      let ((tokens, stop), s) := drainWithin fuel s
      ((t :: tokens, stop), s)
    | (.ok none, s) => (([], none), s)
    | (.error e, s) => (([], some e), s)

/-- Takes all tokens that are left. One round more than `left` is for the end. -/
def drain (s : σ) : (List Token × Option QueryError) × σ := drainWithin (left s + 1) s

end Cursor

structure Replay where
  tokens : List Token
  rest : List Token
  current : Option Token
  deriving DecidableEq, Repr

namespace Replay

def ofList (tokens : List Token) : Replay := ⟨tokens, tokens, none⟩

def next (s : Replay) : Except QueryError (Option Token) × Replay :=
  match s.rest with
  | [] => (.ok none, { s with current := none })
  | t :: rest => (.ok (some t), { s with rest := rest, current := some t })

instance : Cursor Replay where
  current := Replay.current
  next := next
  reset s := ofList s.tokens
  left s := s.rest.length
  left_next := by
    intro s s' t h
    unfold next at h
    split at h
    · simp at h
    · next hr =>
      simp only [Prod.mk.injEq] at h
      obtain ⟨_, rfl⟩ := h
      simp [hr]

end Replay

structure SkipWhitespace (σ : Type) where
  inner : σ
  deriving DecidableEq, Repr

namespace SkipWhitespace

variable {σ : Type} [Cursor σ]

def nextWithin : Nat → σ → Except QueryError (Option Token) × σ
  | 0, s => (.ok none, s)
  | fuel + 1, s =>
    match Cursor.next s with
    | (.ok (some t), s) => if t.kind = .whitespace then nextWithin fuel s else (.ok (some t), s)
    | (.ok none, s) => (.ok none, s)
    | (.error e, s) => (.error e, s)

theorem left_nextWithin (fuel : Nat) (s s' : σ) (t : Token)
    (h : nextWithin fuel s = (.ok (some t), s')) : Cursor.left s' < Cursor.left s := by
  induction fuel generalizing s with
  | zero => simp [nextWithin] at h
  | succ fuel ih =>
    unfold nextWithin at h
    split at h
    · next u r hn =>
      have hr := Cursor.left_next hn
      split at h
      · exact Nat.lt_trans (ih r h) hr
      · simp only [Prod.mk.injEq] at h
        obtain ⟨_, rfl⟩ := h
        exact hr
    · simp at h
    · simp at h

instance : Cursor (SkipWhitespace σ) where
  current s := (Cursor.current s.inner).filter (·.kind ≠ .whitespace)
  next s :=
    let (answer, inner) := nextWithin (Cursor.left s.inner + 1) s.inner
    (answer, ⟨inner⟩)
  reset s := ⟨Cursor.reset s.inner⟩
  left s := Cursor.left s.inner
  left_next := by
    intro s s' t h
    simp only [Prod.mk.injEq] at h
    obtain ⟨h, rfl⟩ := h
    exact left_nextWithin _ _ _ t (Prod.ext h rfl)

end SkipWhitespace

end FieldQuery
