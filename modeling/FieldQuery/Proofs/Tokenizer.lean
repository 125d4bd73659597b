import FieldQuery.Proofs.Cursor
import FieldQuery.Proofs.Lexeme
set_option autoImplicit false

namespace FieldQuery

namespace Lexeme

/-- Lexemes cut off the front of a text, one after another, down to what follows them. -/
inductive Lexes : Text → List Lexeme → Text → Prop where
  | done {text : Text} : Lexes text [] text
  | cons {text middle rest : Text} {lexeme : Lexeme} {lexemes : List Lexeme} :
      first? text = some (lexeme, middle) → Lexes middle lexemes rest →
      Lexes text (lexeme :: lexemes) rest

theorem Lexes.append {text middle rest : Text} {front back : List Lexeme}
    (hf : Lexes text front middle) (hb : Lexes middle back rest) :
    Lexes text (front ++ back) rest := by
  induction hf with
  | done => exact hb
  | cons h _ ih => exact .cons h (ih hb)

def spans (lexemes : List Lexeme) : Text := lexemes.flatMap span

@[simp] theorem spans_nil : spans [] = [] := rfl

@[simp] theorem spans_cons (lexeme : Lexeme) (lexemes : List Lexeme) :
    spans (lexeme :: lexemes) = lexeme.span ++ spans lexemes := rfl

@[simp] theorem spans_append (front back : List Lexeme) :
    spans (front ++ back) = spans front ++ spans back := by
  simp [spans]

theorem Lexes.spans_append_rest {text rest : Text} {lexemes : List Lexeme}
    (h : Lexes text lexemes rest) : text = spans lexemes ++ rest := by
  induction h with
  | done => rfl
  | cons hf _ ih => rw [(first?_eq_some_iff.1 hf).1, ih, spans_cons, List.append_assoc]

theorem exists_lexes (text : Text) :
    ∃ lexemes rest, Lexes text lexemes rest ∧ first? rest = none := by
  induction hn : text.length using Nat.strongRecOn generalizing text with
  | ind n ih =>
    match hf : first? text with
    | none => exact ⟨[], text, .done, hf⟩
    | some (lexeme, middle) =>
      have hl := length_first? hf
      obtain ⟨lexemes, rest, h, hr⟩ := ih middle.length (by omega) middle rfl
      exact ⟨lexeme :: lexemes, rest, .cons hf h, hr⟩

/-- The tokens of lexemes of which the first starts at the given column. -/
def placed : Nat → List Lexeme → List Token
  | _, [] => []
  | column, lexeme :: lexemes =>
    ⟨lexeme.kind, lexeme.text, column⟩ :: placed (column + lexeme.span.length) lexemes

@[simp] theorem placed_append (column : Nat) (front back : List Lexeme) :
    placed column (front ++ back) =
      placed column front ++ placed (column + (spans front).length) back := by
  induction front generalizing column with
  | nil => rfl
  | cons lexeme front ih => simp [placed, ih, Nat.add_assoc]

end Lexeme

open Lexeme

namespace Tokenizer

theorem next_nil {s : Tokenizer} (h : s.rest = []) :
    Cursor.next s = (.ok none, { s with current := none }) := by
  simp [Cursor.next, next, h]

theorem next_none {s : Tokenizer} (h : s.rest ≠ []) (hf : first? s.rest = none) :
    Cursor.next s = (.error (.recognition s.input s.column), { s with current := none }) := by
  obtain ⟨c, cs, hc⟩ := List.exists_cons_of_ne_nil h
  rw [hc] at hf
  simp [Cursor.next, next, hc, hf]

theorem next_some {s : Tokenizer} {lexeme : Lexeme} {rest : Text}
    (hf : first? s.rest = some (lexeme, rest)) :
    Cursor.next s = (.ok (some ⟨lexeme.kind, lexeme.text, s.column⟩),
      { s with
        rest := rest, column := s.column + lexeme.span.length,
        current := some ⟨lexeme.kind, lexeme.text, s.column⟩ }) := by
  cases hc : s.rest with
  | nil => simp [hc, first?] at hf
  | cons c cs =>
    rw [hc] at hf
    simp [Cursor.next, next, hc, hf]

def failure (input : Text) (column : Nat) (rest : Text) : Option QueryError :=
  if rest = [] then none else some (.recognition input column)

theorem gives_placed {text rest : Text} {lexemes : List Lexeme} (h : Lexes text lexemes rest)
    (hr : first? rest = none) (s : Tokenizer) (hs : s.rest = text) :
    Cursor.tokens s = placed s.column lexemes ∧
      Cursor.stop s = failure s.input (s.column + (spans lexemes).length) rest := by
  induction h generalizing s with
  | @done text =>
    subst hs
    by_cases he : s.rest = []
    · have hn := Cursor.drain_ended (next_nil he)
      simp [Cursor.tokens, Cursor.stop, hn, placed, failure, he]
    · have hn := Cursor.drain_failed (next_none he hr)
      simp [Cursor.tokens, Cursor.stop, hn, placed, failure, he]
  | cons hf _ ih =>
    subst hs
    have hn := next_some hf
    obtain ⟨hts, hst⟩ := ih hr (Cursor.next s).2 (by rw [hn])
    rw [hn] at hts hst
    rw [Cursor.tokens_token hn, Cursor.stop_token hn, hts, hst]
    simp [placed, Nat.add_assoc]

theorem gives_ofText {text rest : Text} {lexemes : List Lexeme} (h : Lexes text lexemes rest)
    (hr : first? rest = none) : Cursor.tokens (ofText text) = placed 0 lexemes ∧
      Cursor.stop (ofText text) = failure text (spans lexemes).length rest := by
  have hgives := gives_placed h hr (ofText text) rfl
  rwa [show (ofText text).column = 0 from rfl, Nat.zero_add] at hgives

end Tokenizer

theorem tokenize_of_lexes {text rest : Text} {lexemes : List Lexeme}
    (h : Lexes text lexemes rest) (hr : first? rest = none) :
    tokenize text =
      if rest = [] then .ok (placed 0 lexemes)
      else .error (.recognition text (spans lexemes).length) := by
  obtain ⟨ht, hst⟩ := Tokenizer.gives_ofText h hr
  have hd : (Cursor.drain (Tokenizer.ofText text)).1 =
      (Cursor.tokens (Tokenizer.ofText text), Cursor.stop (Tokenizer.ofText text)) := rfl
  rw [tokenize, hd, ht, hst]
  by_cases he : rest = []
  · simp [Tokenizer.failure, he]
  · simp [Tokenizer.failure, he]

theorem tokenize_eq_ok_iff_lexes {text : Text} {tokens : List Token} :
    tokenize text = .ok tokens ↔ ∃ lexemes, Lexes text lexemes [] ∧ placed 0 lexemes = tokens := by
  constructor
  · intro h
    obtain ⟨lexemes, rest, hl, hr⟩ := exists_lexes text
    rw [tokenize_of_lexes hl hr] at h
    split at h
    · next he => exact ⟨lexemes, he ▸ hl, Except.ok.inj h⟩
    · cases h
  · rintro ⟨lexemes, hl, rfl⟩
    rw [tokenize_of_lexes hl rfl, if_pos rfl]

theorem parse_of_lexes {query rest : Text} {lexemes : List Lexeme}
    (h : Lexes query lexemes rest) (hr : first? rest = none) :
    parse query = Parser.State.initial.conclude (placed 0 lexemes)
      (Tokenizer.failure query (spans lexemes).length rest) := by
  obtain ⟨ht, hst⟩ := Tokenizer.gives_ofText h hr
  rw [parse_conclude, ht, hst]

theorem Parser.State.stop_eq_none_of_conclude {s : State} {ts : List Token}
    {stop : Option QueryError} {node : Node} (h : s.conclude ts stop = .ok node) : stop = none := by
  cases stop with
  | none => rfl
  | some e => cases hr : s.run ts <;> simp [conclude, hr, bind, Except.bind] at h

theorem exists_tokens_of_parse {query : Text} {node : Node} (h : parse query = .ok node) :
    ∃ tokens, tokenize query = .ok tokens ∧ parseTokens tokens = .ok node := by
  obtain ⟨lexemes, rest, hl, hr⟩ := exists_lexes query
  rw [parse_of_lexes hl hr] at h
  have hstop := Parser.State.stop_eq_none_of_conclude h
  refine ⟨placed 0 lexemes, ?_, ?_⟩
  · rw [tokenize_of_lexes hl hr]
    exact if_pos (by simpa [Tokenizer.failure] using hstop)
  · rw [parseTokens_conclude, ← hstop]
    exact h

end FieldQuery
