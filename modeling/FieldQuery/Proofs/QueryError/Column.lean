import FieldQuery.Proofs.Parser.Ahead
set_option autoImplicit false

namespace FieldQuery

open Lexeme

/-- What stands at the column of an error: a token that is refused, or the first character behind
all tokens. -/
inductive QueryError.PointsAt (query : Text) : QueryError → Nat → Prop where
  | token {fault : Fault} {t : Token} : t ∈ Cursor.tokens (Tokenizer.ofText query) →
      t.kind ≠ .whitespace → PointsAt query (.semantic fault (some t.column)) t.column
  | ending {column : Nat} {tiles : List Tile} :
      tiles.map Tile.token = Cursor.tokens (Tokenizer.ofText query) →
      Tiling (query.take column) tiles → PointsAt query (.recognition query column) column

namespace Parser.State

theorem not_whitespace_of_step_error {s : State} {t : Token} {e : QueryError}
    (h : s.step t = .error e) : t.kind ≠ .whitespace := by
  intro hk
  rw [step_whitespace s hk] at h
  cases h

theorem conclude_error {s : State} {ts : List Token} {stop : Option QueryError} {e : QueryError}
    (h : s.conclude ts stop = .error e) : stop = some e ∨
      (∃ t ∈ ts, ∃ reached : State, reached.step t = .error e) ∨
      ∃ last : State, last.finish = .error e := by
  cases hr : s.run ts with
  | error e' =>
    rw [conclude_of_error hr] at h
    obtain rfl := Except.error.inj h
    obtain ⟨before, t, after, reached, rfl, -, hs⟩ := refused_of_run hr
    exact .inr (.inl ⟨t, by simp, reached, hs⟩)
  | ok last =>
    cases stop with
    | none =>
      rw [conclude_of_run hr] at h
      exact .inr (.inr ⟨last, h⟩)
    | some e' =>
      rw [conclude, hr] at h
      exact .inl (congrArg some (Except.error.inj h))

end Parser.State

theorem Lexeme.Lexes.tiling {text rest : Text} {lexemes : List Lexeme}
    (h : Lexes text lexemes rest) : Tiling (spans lexemes) (tiles 0 lexemes) where
  spans_eq := span_tiles 0 lexemes
  cut := fun _ _ _ ht => by simpa using h.cut ht
  adjoins := fun _ _ _ _ ht => h.adjoins ht

theorem column_lt_of_mem_tokens {query : Text} {t : Token}
    (h : t ∈ Cursor.tokens (Tokenizer.ofText query)) : t.column < query.length := by
  obtain ⟨lexemes, rest, hl, hr⟩ := exists_lexes query
  rw [(Tokenizer.gives_ofText hl hr).1] at h
  have hlt := hl.column_lt t h
  rw [hl.spans_append_rest, List.length_append]
  omega

theorem exists_ending_of_stop {query : Text} {e : QueryError}
    (h : Cursor.stop (Tokenizer.ofText query) = some e) :
    ∃ column, e = .recognition query column ∧ e.PointsAt query column ∧ column < query.length := by
  obtain ⟨lexemes, rest, hl, hr⟩ := exists_lexes query
  obtain ⟨ht, hs⟩ := Tokenizer.gives_ofText hl hr
  rw [hs, Tokenizer.failure] at h
  split at h
  · cases h
  · next hne =>
    obtain rfl := Option.some.inj h
    have htokens : (tiles 0 lexemes).map Tile.token = Cursor.tokens (Tokenizer.ofText query) := by
      rw [token_tiles, ht]
    have htake : query.take (spans lexemes).length = spans lexemes := by
      rw [hl.spans_append_rest, List.take_left]
    refine ⟨_, rfl, .ending htokens (htake.symm ▸ hl.tiling), ?_⟩
    have hpos := List.length_pos_iff.2 hne
    rw [hl.spans_append_rest, List.length_append]
    omega

/-- A query that is refused, with whitespace hidden from the parser or not. -/
def RefusedWith (query : Text) (e : QueryError) : Prop :=
  parse query = .error e ∨ (Parser.read (Tokenizer.ofText query)).1 = .error e

namespace RefusedWith

variable {query : Text} {e : QueryError} {column : Nat}

theorem conclude_eq (h : RefusedWith query e) :
    Parser.State.initial.conclude (Cursor.tokens (Tokenizer.ofText query))
      (Cursor.stop (Tokenizer.ofText query)) = .error e := by
  rcases h with h | h
  · rwa [parse_conclude] at h
  · rwa [Parser.read_conclude] at h

theorem pointsAt (h : RefusedWith query e) (hc : e.column = some column) :
    e.PointsAt query column ∧ column < query.length := by
  rcases Parser.State.conclude_error h.conclude_eq with hs | ⟨t, hm, _, hs⟩ | ⟨_, hf⟩
  · obtain ⟨_, rfl, hp, hlt⟩ := exists_ending_of_stop hs
    obtain rfl := Option.some.inj hc
    exact ⟨hp, hlt⟩
  · obtain ⟨_, rfl⟩ := Parser.State.step_error hs
    obtain rfl := Option.some.inj hc
    exact ⟨.token hm (Parser.State.not_whitespace_of_step_error hs), column_lt_of_mem_tokens hm⟩
  · obtain ⟨_, rfl⟩ := Parser.State.finish_error hf
    cases hc

end RefusedWith

namespace QueryError

variable {query : Text} {e : QueryError} {column : Nat}

theorem PointsAt.source_eq (h : e.PointsAt query column) : e.source query = query := by
  cases h <;> rfl

theorem withContext_eq (hs : e.source query = query) (hc : e.column = some column)
    (hle : column ≤ query.length) :
    e.withContext query = e.display ++ "\n  ".toList ++ query ++
      '\n' :: (List.replicate (2 + column) ' ' ++ ['^']) := by
  simp only [withContext, hs, hc, Nat.min_eq_left hle]
  rw [Nat.add_comm 2 column]
  rfl

end QueryError

/-- An error with a column points to a character of the query, and the caret is set by the column
as it is. -/
theorem refused_pointsAt {query : Text} {e : QueryError} {column : Nat} (h : RefusedWith query e)
    (hc : e.column = some column) :
    e.PointsAt query column ∧ column < query.length ∧
      min column (e.source query).length = column ∧
      e.withContext query = e.display ++ "\n  ".toList ++ query ++
        '\n' :: (List.replicate (2 + column) ' ' ++ ['^']) := by
  obtain ⟨hp, hlt⟩ := h.pointsAt hc
  have hle := Nat.le_of_lt hlt
  exact ⟨hp, hlt, by rw [hp.source_eq, Nat.min_eq_left hle],
    QueryError.withContext_eq hp.source_eq hc hle⟩

theorem refused_pointsAt_behind_quotes :
    (RefusedWith "é:\"ü\"\n x".toList (.semantic (.unexpected .text) (some 7)) ∧
      (QueryError.semantic (.unexpected .text) (some 7)).PointsAt "é:\"ü\"\n x".toList 7) ∧
    RefusedWith "(é:1 \"\\\"".toList (.recognition "(é:1 \"\\\"".toList 5) ∧
      (QueryError.recognition "(é:1 \"\\\"".toList 5).PointsAt "(é:1 \"\\\"".toList 5 ∧
      (QueryError.recognition "(é:1 \"\\\"".toList 5).withContext "(é:1 \"\\\"".toList =
        "Unrecognized character at column [5]\n  (é:1 \"\\\"\n       ^".toList := by
  have htoken : RefusedWith "é:\"ü\"\n x".toList (.semantic (.unexpected .text) (some 7)) :=
    .inl (by rfl)
  have hending : RefusedWith "(é:1 \"\\\"".toList (.recognition "(é:1 \"\\\"".toList 5) :=
    .inr (by rfl)
  obtain ⟨hp, -, -, hcontext⟩ := refused_pointsAt hending rfl
  exact ⟨⟨htoken, (refused_pointsAt htoken rfl).1⟩, hending, hp, hcontext.trans (by decide)⟩

end FieldQuery
