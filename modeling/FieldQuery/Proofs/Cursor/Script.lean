import FieldQuery.Proofs.Cursor.Lawful
set_option autoImplicit false

/-! What a cursor answers when it is called in any order. A script is what a cursor gives, written
down: its answer depends on nothing but the number of moves since the last reset. The cursors of
this library differ in their states, and no calls can tell any of them from the script of what it
gives. -/

namespace FieldQuery

namespace Cursor

inductive Call where
  | next | current | reset
  deriving DecidableEq, Repr

inductive Reply where
  | moved (answer : Except QueryError (Option Token))
  | shown (token : Option Token)
  | rewound

def replies {σ : Type} [Cursor σ] : σ → List Call → List Reply
  | _, [] => []
  | s, .next :: calls => .moved (next s).1 :: replies (next s).2 calls
  | s, .current :: calls => .shown (current s) :: replies s calls
  | s, .reset :: calls => .rewound :: replies (reset s) calls

/-- Whatever is shown is the token of the last move, if one was made since the start or the last
reset. -/
def Recalls : Option Token → List Reply → Prop
  | _, [] => True
  | _, .moved answer :: replies => Recalls (landed answer) replies
  | last, .shown t :: replies => t = last ∧ Recalls last replies
  | _, .rewound :: replies => Recalls none replies

end Cursor

open Cursor

structure Script where
  tokens : List Token
  stop : Option QueryError
  deriving DecidableEq, Repr

namespace Script

def answer (script : Script) (moves : Nat) : Except QueryError (Option Token) :=
  given script.tokens[moves]? script.stop

def shown (script : Script) : (moves : Nat) → Option Token
  | 0 => none
  | moves + 1 => script.tokens[moves]?

def replies (script : Script) : (moves : Nat) → List Call → List Reply
  | _, [] => []
  | moves, .next :: calls => .moved (script.answer moves) :: script.replies (moves + 1) calls
  | moves, .current :: calls => .shown (script.shown moves) :: script.replies moves calls
  | _, .reset :: calls => .rewound :: script.replies 0 calls

theorem recalls_replies (script : Script) (moves : Nat) (calls : List Call) :
    Recalls (script.shown moves) (script.replies moves calls) := by
  induction calls generalizing moves with
  | nil => trivial
  | cons call calls ih =>
    cases call with
    | next =>
      have hl : landed (script.answer moves) = script.shown (moves + 1) := landed_given _ _
      rw [replies, Recalls, hl]
      exact ih (moves + 1)
    | current => exact ⟨rfl, ih moves⟩
    | reset => exact ih 0

variable {script : Script} {σ : Type} [Cursor σ]

structure Reaches (script : Script) (moves : Nat) (s : σ) : Prop where
  tokens_eq : Cursor.tokens s = script.tokens.drop moves
  stop_eq : Cursor.stop s = script.stop
  current_eq : Cursor.current s = script.shown moves

theorem Reaches.next_eq {moves : Nat} {s : σ} (h : script.Reaches moves s) :
    (Cursor.next s).1 = script.answer moves := by
  rw [next_given, h.tokens_eq, h.stop_eq, List.head?_drop, answer]

theorem Reaches.next [Lawful σ] {moves : Nat} {s : σ} (h : script.Reaches moves s) :
    script.Reaches (moves + 1) (Cursor.next s).2 := by
  obtain ⟨ht, hs⟩ := gives_next s
  refine ⟨?_, hs.trans h.stop_eq, ?_⟩
  · rw [ht, h.tokens_eq, List.tail_drop]
  · rw [Lawful.current_next, h.next_eq, answer, landed_given]
    rfl

theorem Reaches.replies_eq [Lawful σ] {moves : Nat} {s start : σ} (h : script.Reaches moves s)
    (hstart : script.Reaches 0 start) (hr : Cursor.reset s = start) (calls : List Call) :
    Cursor.replies s calls = script.replies moves calls := by
  have hrr : Cursor.reset start = start := hr ▸ Lawful.reset_reset s
  induction calls generalizing moves s with
  | nil => rfl
  | cons call calls ih =>
    cases call with
    | next =>
      have hn := ih h.next ((Lawful.reset_next s).trans hr)
      rw [Cursor.replies, replies, h.next_eq, hn]
    | current =>
      rw [Cursor.replies, replies, h.current_eq, ih h hr]
    | reset =>
      have hs := ih hstart hrr
      rw [Cursor.replies, replies, hr, hs]

/-- No calls tell the cursor from the script, and it always shows the token of its last move. -/
structure Plays (script : Script) (s : σ) : Prop where
  replies_eq : ∀ calls, Cursor.replies s calls = script.replies 0 calls
  recalls : ∀ calls, Recalls none (Cursor.replies s calls)

theorem plays_of_lawful [Lawful σ] {start : σ} (h : Cursor.reset start = start) :
    Plays ⟨Cursor.tokens start, Cursor.stop start⟩ start := by
  have hc : Cursor.current start = none := h ▸ Lawful.current_reset start
  have hs : Reaches ⟨Cursor.tokens start, Cursor.stop start⟩ 0 start := ⟨rfl, rfl, hc⟩
  have hr := hs.replies_eq hs h
  refine ⟨hr, fun calls => ?_⟩
  rw [hr]
  exact recalls_replies _ 0 calls

end Script

theorem SkipWhitespace.plays_significant {σ : Type} [Cursor σ] [Lawful σ] {start : σ}
    (h : Cursor.reset start = start) :
    Script.Plays ⟨significant (Cursor.tokens start), Cursor.stop start⟩
      (SkipWhitespace.mk start) := by
  obtain ⟨ht, hs⟩ := gives_significant start
  rw [← ht, ← hs]
  exact Script.plays_of_lawful (congrArg mk h)

/-- The tokenizer plays the script of the tokens and the error of a text, a replay that of the
tokens alone, and `SkipWhitespace` of either plays the same script without the whitespace. -/
theorem plays_script (text : Text) :
    let tokens := Cursor.tokens (Tokenizer.ofText text)
    let stop := Cursor.stop (Tokenizer.ofText text)
    Script.Plays ⟨tokens, stop⟩ (Tokenizer.ofText text) ∧
      Script.Plays ⟨tokens, none⟩ (Replay.ofList tokens) ∧
      Script.Plays ⟨significant tokens, stop⟩ (SkipWhitespace.mk (Tokenizer.ofText text)) ∧
      Script.Plays ⟨significant tokens, none⟩ (SkipWhitespace.mk (Replay.ofList tokens)) := by
  intro tokens stop
  obtain ⟨ht, hs⟩ := Replay.gives_rest (Replay.ofList tokens)
  have hreplay : Script.Plays _ (Replay.ofList tokens) := Script.plays_of_lawful rfl
  have hskip : Script.Plays _ (SkipWhitespace.mk (Replay.ofList tokens)) :=
    SkipWhitespace.plays_significant rfl
  rw [ht, hs] at hreplay hskip
  exact ⟨Script.plays_of_lawful rfl, hreplay, SkipWhitespace.plays_significant rfl, hskip⟩

example : Cursor.replies (Tokenizer.ofText ['a', '$'])
    [.current, .next, .current, .next, .current, .next, .reset, .current, .next] =
    [.shown none, .moved (.ok (some ⟨.text, ['a'], 0⟩)), .shown (some ⟨.text, ['a'], 0⟩),
      .moved (.error (.recognition ['a', '$'] 1)), .shown none,
      .moved (.error (.recognition ['a', '$'] 1)), .rewound, .shown none,
      .moved (.ok (some ⟨.text, ['a'], 0⟩))] := by
  rfl

end FieldQuery
