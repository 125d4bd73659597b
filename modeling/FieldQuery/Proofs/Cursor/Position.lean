import FieldQuery.Proofs.Cursor.Script
import FieldQuery.Proofs.Lexeme.Scanning
set_option autoImplicit false

/-! Cursors that keep a position in the whole of what they read: the index of a token in a list, and
the byte offset of a character in a text. The list cursor parks one past the end, and the text
cursor slices its input at the offset, which is an error inside a character. They answer as the
cursors do that keep what is left, and no slice ever goes wrong. -/

namespace FieldQuery

namespace Text

/-- Cuts a text behind so many bytes, unless that is inside a character or behind the end. -/
def splitBytes? : Text → Nat → Option (Text × Text)
  | text, 0 => some ([], text)
  | [], _ + 1 => none
  | c :: text, bytes + 1 =>
    if c.utf8Size ≤ bytes + 1 then
      (splitBytes? text (bytes + 1 - c.utf8Size)).map fun (front, back) => (c :: front, back)
    else none

theorem splitBytes?_append (front back : Text) :
    splitBytes? (front ++ back) front.toBytes.size = some (front, back) := by
  induction front with
  | nil => cases back <;> rfl
  | cons c front ih =>
    have hpos := c.utf8Size_pos
    obtain ⟨bytes, hbytes⟩ : ∃ n, (toBytes (c :: front)).size = n + 1 :=
      Nat.exists_eq_succ_of_ne_zero (by rw [size_toBytes_cons]; omega)
    have hleft : bytes + 1 - c.utf8Size = (toBytes front).size := by
      rw [← hbytes, size_toBytes_cons, Nat.add_sub_cancel_left]
    have hle : c.utf8Size ≤ bytes + 1 := by
      rw [← hbytes, size_toBytes_cons]
      exact Nat.le_add_right _ _
    rw [hbytes, List.cons_append, splitBytes?, if_pos hle, hleft, ih]
    rfl

theorem size_toBytes_eq_zero_iff {text : Text} : text.toBytes.size = 0 ↔ text = [] := by
  cases text with
  | nil => exact iff_of_true rfl rfl
  | cons c text =>
    have hpos := c.utf8Size_pos
    rw [size_toBytes_cons]
    exact iff_of_false (by omega) (List.cons_ne_nil c text)

end Text

/-- A source of tokens with checked positions: a move has no answer where its position cannot be
used. -/
structure Source (σ : Type) where
  current : σ → Option Token
  next : σ → Option (Except QueryError (Option Token) × σ)
  reset : σ → σ

namespace Source

open Cursor (Call Reply)

variable {σ τ : Type} [Cursor τ]

def replies? (source : Source σ) : σ → List Call → Option (List Reply)
  | _, [] => some []
  | s, .next :: calls => do
    let (answer, s) ← source.next s
    (source.replies? s calls).map (.moved answer :: ·)
  | s, .current :: calls => (source.replies? s calls).map (.shown (source.current s) :: ·)
  | s, .reset :: calls => (source.replies? (source.reset s) calls).map (.rewound :: ·)

/-- `At` relates the states of a source to the states in which a cursor answers alike. -/
structure Follows (source : Source σ) (At : σ → τ → Prop) : Prop where
  current_eq : ∀ {s : σ} {t : τ}, At s t → source.current s = Cursor.current t
  next_eq : ∀ {s : σ} {t : τ}, At s t →
    ∃ s', source.next s = some ((Cursor.next t).1, s') ∧ At s' (Cursor.next t).2
  reset_at : ∀ {s : σ} {t : τ}, At s t → At (source.reset s) (Cursor.reset t)

theorem Follows.replies?_eq {source : Source σ} {At : σ → τ → Prop} (h : source.Follows At)
    {s : σ} {t : τ} (hs : At s t) (calls : List Call) :
    source.replies? s calls = some (Cursor.replies t calls) := by
  induction calls generalizing s t with
  | nil => rfl
  | cons call calls ih =>
    cases call with
    | next =>
      obtain ⟨s', hn, hs'⟩ := h.next_eq hs
      simp only [replies?, hn, Option.bind_eq_bind, Option.bind_some, ih hs', Option.map_some]
      rfl
    | current =>
      rw [replies?, ih hs, h.current_eq hs]
      rfl
    | reset =>
      rw [replies?, ih (h.reset_at hs)]
      rfl

end Source

open Cursor (Call replies)

/-! ## The index of a token -/

structure Indexed where
  tokens : List Token
  /-- Of the current token; nothing before the first move. -/
  index : Option Nat

namespace Indexed

def current (s : Indexed) : Option Token := s.index.bind fun i => s.tokens[i]?

def following (s : Indexed) : Nat := s.index.elim 0 (· + 1)

def source : Source Indexed where
  current := current
  next s :=
    let moved := { s with index := some (min s.following s.tokens.length) }
    some (.ok moved.current, moved)
  reset s := { s with index := none }

structure At (s : Indexed) (t : Replay) : Prop where
  tokens_eq : t.tokens = s.tokens
  rest_eq : t.rest = s.tokens.drop s.following
  current_eq : t.current = s.current

theorem next_at {s : Indexed} {t : Replay} (h : s.At t) :
    ∃ s', source.next s = some ((Cursor.next t).1, s') ∧ s'.At (Cursor.next t).2 := by
  have hrest := h.rest_eq
  cases hr : t.rest with
  | nil =>
    rw [hr] at hrest
    have hle : s.tokens.length ≤ s.following := List.drop_eq_nil_iff.1 hrest.symm
    have hnext : Cursor.next t = (.ok none, { t with current := none }) := by
      simp [Cursor.next, Replay.next, hr]
    have hnone : s.tokens[s.tokens.length]? = none := List.getElem?_eq_none (Nat.le_refl _)
    refine ⟨{ s with index := some s.tokens.length }, ?_, ?_⟩
    · simp [source, current, hnext, Nat.min_eq_right hle]
    · rw [hnext]
      refine ⟨h.tokens_eq, ?_, hnone.symm⟩
      rw [hr, following, Option.elim_some, List.drop_eq_nil_of_le (Nat.le_succ _)]
  | cons token rest =>
    rw [hr] at hrest
    have hlt : s.following < s.tokens.length := by
      by_contra hle
      rw [List.drop_eq_nil_of_le (Nat.le_of_not_lt hle)] at hrest
      cases hrest
    rw [List.drop_eq_getElem_cons hlt] at hrest
    obtain ⟨rfl, rfl⟩ := List.cons.inj hrest
    have hnext := Replay.next.eq_def t
    rw [hr] at hnext
    have hsome : s.tokens[s.following]? = some s.tokens[s.following] :=
      List.getElem?_eq_getElem hlt
    refine ⟨{ s with index := some s.following }, ?_, ?_⟩
    · simp [source, current, Cursor.next, hnext, Nat.min_eq_left (Nat.le_of_lt hlt), hsome]
    · have heq : (Cursor.next t).2 = _ := congrArg Prod.snd hnext
      rw [heq]
      exact ⟨h.tokens_eq, rfl, hsome.symm⟩

theorem follows : source.Follows At where
  current_eq h := h.current_eq.symm
  next_eq := next_at
  reset_at h := ⟨h.tokens_eq, h.tokens_eq, rfl⟩

/-- A list read by an index is replayed, whatever is called. -/
theorem replies?_source (tokens : List Token) (calls : List Call) :
    source.replies? ⟨tokens, none⟩ calls = some (replies (Replay.ofList tokens) calls) :=
  follows.replies?_eq ⟨rfl, rfl, rfl⟩ calls

end Indexed

/-! ## The offset of a character -/

structure Offset where
  input : Text
  /-- In bytes, of the next character. -/
  offset : Nat
  column : Nat
  current : Option Token

namespace Offset

def source : Source Offset where
  current := Offset.current
  next s :=
    if s.input.toBytes.size ≤ s.offset then some (.ok none, { s with current := none })
    else do
      let (_, rest) ← s.input.splitBytes? s.offset
      match Lexeme.first? rest with
      | none => some (.error (.recognition s.input s.column), { s with current := none })
      | some (lexeme, _) =>
        let (consumed, _) ← rest.splitBytes? lexeme.span.toBytes.size
        let token : Token := ⟨lexeme.kind, lexeme.text, s.column⟩
        some (.ok (some token),
          { s with
            offset := s.offset + lexeme.span.toBytes.size, column := s.column + consumed.length,
            current := some token })
  reset s := { s with offset := 0, column := 0, current := none }

structure At (s : Offset) (t : Tokenizer) : Prop where
  input_eq : t.input = s.input
  column_eq : t.column = s.column
  current_eq : t.current = s.current
  exists_front : ∃ front, s.input = front ++ t.rest ∧ s.offset = front.toBytes.size

theorem next_at {s : Offset} {t : Tokenizer} (h : s.At t) :
    ∃ s', source.next s = some ((Cursor.next t).1, s') ∧ s'.At (Cursor.next t).2 := by
  obtain ⟨front, hinput, hoffset⟩ := h.exists_front
  have hsize : s.input.toBytes.size = s.offset + t.rest.toBytes.size := by
    rw [hinput, hoffset, Text.size_toBytes_append]
  by_cases hr : t.rest = []
  · have hend : s.input.toBytes.size ≤ s.offset := by
      rw [hsize, Text.size_toBytes_eq_zero_iff.2 hr]
      exact Nat.le_refl _
    rw [Tokenizer.next_nil hr]
    exact ⟨{ s with current := none }, if_pos hend, h.input_eq, h.column_eq, rfl, front, hinput,
      hoffset⟩
  · have hgoes : ¬ s.input.toBytes.size ≤ s.offset := by
      have hpos := mt Text.size_toBytes_eq_zero_iff.1 hr
      omega
    have hslice : s.input.splitBytes? s.offset = some (front, t.rest) := by
      rw [hinput, hoffset, Text.splitBytes?_append]
    cases hf : Lexeme.first? t.rest with
    | none =>
      rw [Tokenizer.next_none hr hf, h.input_eq, h.column_eq]
      refine ⟨{ s with current := none }, ?_, rfl, rfl, rfl, front, hinput, hoffset⟩
      simp [source, hgoes, hslice, hf]
    | some found =>
      obtain ⟨lexeme, rest⟩ := found
      have hspan := (Lexeme.first?_sound hf).1
      have hconsumed : t.rest.splitBytes? lexeme.span.toBytes.size = some (lexeme.span, rest) := by
        rw [hspan, Text.splitBytes?_append]
      rw [Tokenizer.next_some hf, h.column_eq]
      refine ⟨⟨s.input, s.offset + lexeme.span.toBytes.size, s.column + lexeme.span.length,
        some ⟨lexeme.kind, lexeme.text, s.column⟩⟩, ?_, h.input_eq, rfl, rfl,
        front ++ lexeme.span, ?_, ?_⟩
      · simp [source, hgoes, hslice, hf, hconsumed]
      · rw [hinput, hspan, List.append_assoc]
      · rw [hoffset, Text.size_toBytes_append]

theorem follows : source.Follows At where
  current_eq h := h.current_eq.symm
  next_eq := next_at
  reset_at h := ⟨h.input_eq, rfl, rfl, [], h.input_eq.symm, rfl⟩

/-- A text read by byte offsets is tokenized, and every offset is between two characters. -/
theorem replies?_source (input : Text) (calls : List Call) :
    source.replies? ⟨input, 0, 0, none⟩ calls = some (replies (Tokenizer.ofText input) calls) :=
  follows.replies?_eq ⟨rfl, rfl, rfl, [], rfl, rfl⟩ calls

end Offset

end FieldQuery
