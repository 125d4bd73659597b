import FieldQuery.Cursor
import FieldQuery.Token.Lexeme
set_option autoImplicit false

namespace FieldQuery

namespace Lexeme

theorem length_splitQuoted {text body rest : Text} (h : splitQuoted text = some (body, rest)) :
    rest.length < text.length := by
  fun_induction splitQuoted text generalizing body rest with
  | case1 => simp at h
  | case2 => simp at h
  | case3 c tail ih =>
    obtain ⟨⟨b, r⟩, hb, he⟩ := Option.map_eq_some_iff.1 h
    have := ih hb
    simp_all
    omega
  | case4 tail => simp_all
  | case5 c tail _ _ _ ih =>
    obtain ⟨⟨b, r⟩, hb, he⟩ := Option.map_eq_some_iff.1 h
    have := ih hb
    simp_all
    omega

theorem length_dropWhile_cons {p : Char → Bool} {c : Char} (h : p c = true) (text : Text) :
    ((c :: text).dropWhile p).length < (c :: text).length := by
  have := (List.dropWhile_sublist (l := text) p).length_le
  simp [h]
  omega

theorem length_first? {text rest : Text} {lexeme : Lexeme}
    (h : first? text = some (lexeme, rest)) : rest.length < text.length := by
  unfold first? at h
  split at h
  case h_1 => simp at h
  -- Parentheses, the colon and the keywords are taken off as they stand.
  case h_2 | h_3 | h_4 | h_5 | h_6 | h_7 =>
    simp only [Option.some.injEq, Prod.mk.injEq] at h
    obtain ⟨_, rfl⟩ := h
    simp only [List.length_cons]
    omega
  case h_8 =>
    unfold quoted? at h
    split at h
    · next hs =>
      simp at h
      have := length_splitQuoted hs
      simp [← h.2]
      omega
    · simp at h
  case h_9 =>
    split at h
    · next hw =>
      simp [run] at h
      rw [← h.2]
      exact length_dropWhile_cons hw _
    · split at h
      · next hw =>
        simp [run] at h
        rw [← h.2]
        exact length_dropWhile_cons hw _
      · simp at h

end Lexeme

structure Tokenizer where
  input : Text
  rest : Text
  column : Nat
  current : Option Token
  deriving DecidableEq, Repr

namespace Tokenizer

def ofText (input : Text) : Tokenizer := ⟨input, input, 0, none⟩

def next (s : Tokenizer) : Except QueryError (Option Token) × Tokenizer :=
  match s.rest with
  | [] => (.ok none, { s with current := none })
  | c :: cs =>
    match Lexeme.first? (c :: cs) with
    | none => (.error (.recognition s.input s.column), { s with current := none })
    | some (lexeme, rest) =>
      let token : Token := ⟨lexeme.kind, lexeme.text, s.column⟩
      (.ok (some token),
        { s with rest := rest, column := s.column + lexeme.span.length, current := some token })

instance : Cursor Tokenizer where
  current := Tokenizer.current
  next := next
  reset s := ofText s.input
  left s := s.rest.length
  left_next := by
    intro s s' t h
    unfold next at h
    split at h
    · simp at h
    · next hr =>
      split at h
      · simp at h
      · next hf =>
        simp only [Prod.mk.injEq] at h
        obtain ⟨_, rfl⟩ := h
        have := Lexeme.length_first? hf
        simpa [hr] using this

end Tokenizer

def tokenize (input : Text) : Except QueryError (List Token) :=
  match (Cursor.drain (Tokenizer.ofText input)).1 with
  | (tokens, none) => .ok tokens
  | (_, some e) => .error e

end FieldQuery
