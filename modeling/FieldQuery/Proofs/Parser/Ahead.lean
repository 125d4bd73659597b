import FieldQuery.Proofs.Lexeme.Tiling
import FieldQuery.Proofs.Parser.Step
set_option autoImplicit false

/-! Cutting a query into tokens ahead of reading it. The parser takes each token when it needs it,
so it may refuse a query in front of a place where no token starts. It makes no other difference
that the tokens are not there from the start. -/

namespace FieldQuery

namespace Lexeme

theorem Lexes.column_lt {text rest : Text} {lexemes : List Lexeme} (h : Lexes text lexemes rest)
    {column : Nat} :
    ∀ t ∈ placed column lexemes, t.column < column + (spans lexemes).length := by
  induction h generalizing column with
  | done => simp [placed]
  | @cons text middle rest lexeme lexemes hf _ ih =>
    intro t ht
    have hs := ((first?_eq_some_iff.1 hf).2.cut column).span_ne_nil
    have hpos : 0 < lexeme.span.length := List.length_pos_iff.2 hs
    rw [spans_cons, List.length_append]
    rcases List.mem_cons.1 ht with rfl | ht
    · change column < _
      omega
    · have hlt := ih t ht
      omega

end Lexeme

open Lexeme

/-- What the result of reading some tokens becomes when an error comes behind the last of them. A
token is refused all the same, but the end is never reached. -/
def Parser.stoppedBy : Option QueryError → Except QueryError Node → Except QueryError Node
  | none, result => result
  | some _, .error (.semantic fault (some column)) => .error (.semantic fault (some column))
  | some e, _ => .error e

namespace Parser.State

theorem refused_of_run {s : State} {ts : List Token} {e : QueryError} (h : s.run ts = .error e) :
    ∃ before t after reached, ts = before ++ t :: after ∧ s.run before = .ok reached ∧
      reached.step t = .error e := by
  induction ts generalizing s with
  | nil => cases h
  | cons t ts ih =>
    cases hs : s.step t with
    | error e' =>
      rw [run_cons_of_error hs] at h
      cases h
      exact ⟨[], t, ts, s, rfl, rfl, hs⟩
    | ok next =>
      rw [run_cons_of_step hs] at h
      obtain ⟨before, u, after, reached, rfl, hr, hu⟩ := ih h
      exact ⟨t :: before, u, after, reached, rfl, by rw [run_cons_of_step hs, hr], hu⟩

theorem conclude_ended_error {s : State} {ts : List Token} {e : QueryError}
    (h : s.conclude ts none = .error e) : ∃ fault column, e = .semantic fault column := by
  cases hr : s.run ts with
  | ok last =>
    rw [conclude_of_run hr] at h
    obtain ⟨fault, rfl⟩ := finish_error h
    exact ⟨fault, none, rfl⟩
  | error e' =>
    rw [conclude_of_error hr] at h
    obtain rfl := Except.error.inj h
    obtain ⟨_, t, _, _, -, -, hs⟩ := refused_of_run hr
    obtain ⟨fault, rfl⟩ := step_error hs
    exact ⟨fault, some t.column, rfl⟩

theorem conclude_stopped (s : State) (ts : List Token) (e : QueryError) :
    s.conclude ts (some e) = .error e ∨
      ∃ t ∈ ts, ∃ fault, s.conclude ts (some e) = .error (.semantic fault (some t.column)) := by
  cases hr : s.run ts with
  | ok last =>
    left
    rw [conclude, hr]
    rfl
  | error e' =>
    right
    obtain ⟨before, t, after, reached, rfl, -, hs⟩ := refused_of_run hr
    obtain ⟨fault, rfl⟩ := step_error hs
    exact ⟨t, by simp, fault, conclude_of_error hr _⟩

theorem conclude_stoppedBy (s : State) (ts : List Token) (stop : Option QueryError) :
    s.conclude ts stop = stoppedBy stop (s.conclude ts none) := by
  cases stop with
  | none => rfl
  | some e =>
    cases hr : s.run ts with
    | error e' =>
      obtain ⟨_, _, _, _, -, -, hs⟩ := refused_of_run hr
      obtain ⟨fault, rfl⟩ := step_error hs
      rw [conclude_of_error hr, conclude_of_error hr]
      rfl
    | ok last =>
      have hstopped : s.conclude ts (some e) = .error e := by
        rw [conclude, hr]
        rfl
      rw [hstopped, conclude_of_run hr]
      cases hf : last.finish with
      | ok node => rfl
      | error e' =>
        obtain ⟨fault, rfl⟩ := finish_error hf
        rfl

/-- A token is refused for what stands before it, whatever comes at the end. -/
theorem conclude_stopped_iff {s : State} {ts : List Token} {fault : Fault} {column : Nat}
    {input : Text} {offset : Nat} :
    s.conclude ts (some (.recognition input offset)) = .error (.semantic fault (some column)) ↔
      s.conclude ts none = .error (.semantic fault (some column)) := by
  rw [conclude_stoppedBy]
  match s.conclude ts none with
  | .ok _ => simp [stoppedBy]
  | .error (.recognition ..) => simp [stoppedBy]
  | .error (.semantic _ none) => simp [stoppedBy]
  | .error (.semantic _ (some _)) => rfl

end Parser.State

theorem stop_of_tokenize {text : Text} {e : QueryError} (h : tokenize text = .error e) :
    ∃ offset, e = .recognition text offset ∧
      ∀ t ∈ Cursor.tokens (Tokenizer.ofText text), t.column < offset := by
  obtain ⟨lexemes, rest, hl, hr⟩ := exists_lexes text
  obtain ⟨ht, hs⟩ := Tokenizer.gives_placed hl hr (Tokenizer.ofText text) rfl
  rw [tokenize_eq_error_iff.1 h, Tokenizer.failure] at hs
  split at hs
  · cases hs
  · refine ⟨_, Option.some.inj hs, fun t hm => ?_⟩
    rw [ht] at hm
    exact hl.column_lt t hm

open Parser.State in
/-- Cutting ahead makes no difference to a query that can be cut. One that cannot be cut is refused
either way: for the cut, or for a token in front of it if that is refused without what follows. -/
theorem parse_ahead (query : Text) :
    (∀ tokens, tokenize query = .ok tokens → parse query = parseTokens tokens ∧
      (Parser.read (Tokenizer.ofText query)).1 = parseTokens tokens) ∧
    ∀ e, tokenize query = .error e → ∃ offset, e = .recognition query offset ∧
      (parse query = .error e ∨ ∃ fault column, column < offset ∧
        parse query = .error (.semantic fault (some column))) ∧
      ∀ fault column, parse query = .error (.semantic fault (some column)) ↔
        parseTokens (Cursor.tokens (Tokenizer.ofText query)) =
          .error (.semantic fault (some column)) := by
  constructor
  · intro tokens h
    obtain ⟨rfl, hs⟩ := tokenize_eq_ok_iff.1 h
    rw [parse_conclude, Parser.read_conclude, parseTokens_conclude, hs]
    exact ⟨rfl, rfl⟩
  · intro e h
    obtain ⟨offset, rfl, hlt⟩ := stop_of_tokenize h
    have hp := parse_conclude query
    rw [tokenize_eq_error_iff.1 h] at hp
    refine ⟨offset, rfl, ?_, fun fault column => ?_⟩
    · rw [hp]
      rcases conclude_stopped _ _ _ with he | ⟨t, ht, fault, he⟩
      · exact .inl he
      · exact .inr ⟨fault, t.column, hlt t ht, he⟩
    · rw [hp, parseTokens_conclude]
      exact conclude_stopped_iff

theorem parse_ahead_refused :
    (tokenize "a:1 )b".toList = .ok [⟨.text, ['a'], 0⟩, ⟨.comparator, [':'], 1⟩, ⟨.text, ['1'], 2⟩,
        ⟨.whitespace, [' '], 3⟩, ⟨.closeGroup, [')'], 4⟩, ⟨.text, ['b'], 5⟩] ∧
      parse "a:1 )b".toList = .error (.semantic .tooManyClosed (some 4))) ∧
    tokenize "a:1 ) \"b".toList = .error (.recognition "a:1 ) \"b".toList 6) ∧
      parse "a:1 ) \"b".toList = .error (.semantic .tooManyClosed (some 4)) := by
  have h : tokenize "a:1 )b".toList = .ok [⟨.text, ['a'], 0⟩, ⟨.comparator, [':'], 1⟩,
      ⟨.text, ['1'], 2⟩, ⟨.whitespace, [' '], 3⟩, ⟨.closeGroup, [')'], 4⟩, ⟨.text, ['b'], 5⟩] := by
    rfl
  have h' : tokenize "a:1 ) \"b".toList = .error (.recognition "a:1 ) \"b".toList 6) := by rfl
  obtain ⟨_, -, -, hiff⟩ := (parse_ahead "a:1 ) \"b".toList).2 _ h'
  have ht : parseTokens (Cursor.tokens (Tokenizer.ofText "a:1 ) \"b".toList)) =
      .error (.semantic .tooManyClosed (some 4)) := by rfl
  exact ⟨⟨h, ((parse_ahead "a:1 )b".toList).1 _ h).1.trans rfl⟩, h', (hiff _ _).2 ht⟩

end FieldQuery
