import FieldQuery.Proofs.Tokenizer
set_option autoImplicit false

/-! The tokens of a text tile it. Each token was cut from a span, and the spans put one behind the
other are the text, so that no character is lost or counted twice between the columns. -/

namespace FieldQuery

theorem Token.unescape_ne_nil {raw : Text} (h : raw ≠ []) : unescape raw ≠ [] := by
  obtain ⟨c, cs, rfl⟩ := List.exists_cons_of_ne_nil h
  by_cases hc : c = '\\'
  · cases cs <;> simp [unescape, unescapeWithin, hc]
  · simp [unescape, unescapeWithin, hc]

structure Tile where
  token : Token
  span : Text
  deriving DecidableEq, Repr

namespace Tile

/-- How a token comes from a span that starts at the given column. A quoted span is decoded and any
other is taken as it is; a span that starts with a keyword is that keyword's token and no text. -/
structure Cut (tile : Tile) (column : Nat) : Prop where
  span_ne_nil : tile.span ≠ []
  text_ne_nil : tile.token.text ≠ []
  column_eq : tile.token.column = column
  unquoted : tile.span.head? ≠ some '"' → tile.token.text = tile.span
  quoted : tile.span.head? = some '"' → tile.token.kind = .text ∧
    ∃ body, tile.span = '"' :: body ++ ['"'] ∧ tile.token.text = Token.unescape body
  operator : ∀ op : Op, op.keyword <+: tile.span → tile.token.kind = .logicalOperator
  negator : "NOT".toList <+: tile.span → tile.token.kind = .negator

/-- What neighbours cannot be: two whitespace tokens, or an unquoted text and more of its word. -/
structure Adjoins (tile next : Tile) : Prop where
  whitespace : ¬ (tile.token.kind = .whitespace ∧ next.token.kind = .whitespace)
  word : tile.token.kind = .text → tile.span.head? ≠ some '"' →
    ∀ c ∈ next.span.head?, isWordChar c = false

end Tile

/-- Tiles that make up a text, each at the column that the spans before it add up to. -/
structure Tiling (text : Text) (tiles : List Tile) : Prop where
  spans_eq : tiles.flatMap Tile.span = text
  cut : ∀ before tile after, tiles = before ++ tile :: after →
    tile.Cut (before.flatMap Tile.span).length
  adjoins : ∀ before tile next after, tiles = before ++ tile :: next :: after → tile.Adjoins next

namespace Lexeme

def tile (lexeme : Lexeme) (column : Nat) : Tile :=
  ⟨⟨lexeme.kind, lexeme.text, column⟩, lexeme.span⟩

theorem cut_verbatim {kind : Kind} {span : Text} (column : Nat) (hne : span ≠ [])
    (hq : span.head? ≠ some '"') (hop : ∀ op : Op, op.keyword <+: span → kind = .logicalOperator)
    (hnot : "NOT".toList <+: span → kind = .negator) :
    ((verbatim kind span).tile column).Cut column :=
  ⟨hne, hne, rfl, fun _ => rfl, fun h => absurd h hq, hop, hnot⟩

theorem cut_of_not_keyword {kind : Kind} {span : Text} (column : Nat) (hne : span ≠ [])
    (hq : span.head? ≠ some '"') (hk : span.startsWithKeyword = false) :
    ((verbatim kind span).tile column).Cut column := by
  rw [Text.startsWithKeyword_eq_false_iff] at hk
  have hop : ∀ op : Op, ¬ op.keyword <+: span := by
    intro op
    cases op
    · exact hk _ (by simp [Op.keyword])
    · exact hk _ (by simp [Op.keyword])
  exact cut_verbatim column hne hq (fun op h => absurd h (hop op))
    fun h => absurd h (hk _ (by simp))

theorem startsWithKeyword_of_whitespace {span : Text}
    (h : ∀ c ∈ span, Unicode.isWhitespace c = true) : span.startsWithKeyword = false := by
  have hw : ∀ keyword ∈ ["AND".toList, "OR".toList, "NOT".toList],
      keyword.any (fun c => !Unicode.isWhitespace c) = true := by decide
  rw [Text.startsWithKeyword_eq_false_iff]
  intro keyword hk hp
  obtain ⟨c, hc, hf⟩ := List.any_eq_true.1 (hw keyword hk)
  have ht := h c (hp.subset hc)
  simp [ht] at hf

theorem head?_ne_quote_of_all {p : Char → Bool} {span : Text} (h : ∀ c ∈ span, p c = true)
    (hp : p '"' = false) : span.head? ≠ some '"' := by
  intro hq
  have hs := h '"' (List.mem_of_head? hq)
  simp [hp] at hs

theorem StandsBefore.cut {lexeme : Lexeme} {rest : Text} (h : lexeme.StandsBefore rest)
    (column : Nat) : (lexeme.tile column).Cut column := by
  cases h with
  | openGroup => exact cut_of_not_keyword _ (by decide) (by decide) (by decide)
  | closeGroup => exact cut_of_not_keyword _ (by decide) (by decide) (by decide)
  | comparator => exact cut_of_not_keyword _ (by decide) (by decide) (by decide)
  | operator op =>
    exact cut_verbatim _ (by cases op <;> decide) (by cases op <;> decide) (fun _ _ => rfl)
      (by cases op <;> decide)
  | negator =>
    exact cut_verbatim _ (by decide) (by decide) (fun op => by cases op <;> decide) (fun _ => rfl)
  | @quoted body rest hne hb =>
    refine ⟨by simp [tile], Token.unescape_ne_nil hne, rfl, by simp [tile],
      fun _ => ⟨rfl, body, rfl, rfl⟩, ?_, by simp [tile]⟩
    intro op
    cases op <;> simp [tile, Op.keyword]
  | blank hne hs =>
    exact cut_of_not_keyword _ hne (head?_ne_quote_of_all hs (by decide))
      (startsWithKeyword_of_whitespace hs)
  | word hne hs hk =>
    exact cut_of_not_keyword _ hne (head?_ne_quote_of_all hs (by decide)) hk

theorem StandsBefore.of_whitespace {lexeme : Lexeme} {rest : Text} (h : lexeme.StandsBefore rest)
    (hk : lexeme.kind = .whitespace) :
    (∀ c ∈ lexeme.span, Unicode.isWhitespace c = true) ∧
      ∀ c ∈ rest.head?, Unicode.isWhitespace c = false := by
  cases h with
  | blank _ hs hr => exact ⟨hs, hr⟩
  | _ => simp [verbatim] at hk

theorem StandsBefore.of_unquoted_text {lexeme : Lexeme} {rest : Text}
    (h : lexeme.StandsBefore rest) (hk : lexeme.kind = .text) (hq : lexeme.span.head? ≠ some '"') :
    ∀ c ∈ rest.head?, isWordChar c = false := by
  cases h with
  | word _ _ _ hr => exact hr
  | quoted => simp at hq
  | _ => simp [verbatim] at hk

theorem StandsBefore.adjoins {lexeme next : Lexeme} {rest : Text}
    (h : lexeme.StandsBefore (next.span ++ rest)) (hn : next.StandsBefore rest)
    (column column' : Nat) : (lexeme.tile column).Adjoins (next.tile column') := by
  have hhead : ∀ c ∈ next.span.head?, c ∈ (next.span ++ rest).head? := by
    intro c hc
    simp [List.head?_append, Option.mem_def.1 hc]
  constructor
  · rintro ⟨hk, hk'⟩
    obtain ⟨c, hc⟩ := Option.isSome_iff_exists.1 (List.isSome_head?.2 (hn.cut 0).span_ne_nil)
    have hw := (hn.of_whitespace hk').1 c (List.mem_of_head? hc)
    have hb := (h.of_whitespace hk).2 c (hhead c hc)
    simp [hw] at hb
  · intro hk hq c hc
    exact h.of_unquoted_text hk hq c (hhead c hc)

def tiles : Nat → List Lexeme → List Tile
  | _, [] => []
  | column, lexeme :: lexemes => lexeme.tile column :: tiles (column + lexeme.span.length) lexemes

theorem token_tiles (column : Nat) (lexemes : List Lexeme) :
    (tiles column lexemes).map Tile.token = placed column lexemes := by
  induction lexemes generalizing column with
  | nil => rfl
  | cons lexeme lexemes ih => simp [tiles, placed, tile, ih]

theorem span_tiles (column : Nat) (lexemes : List Lexeme) :
    (tiles column lexemes).flatMap Tile.span = spans lexemes := by
  induction lexemes generalizing column with
  | nil => rfl
  | cons lexeme lexemes ih => simp [tiles, tile, ih]

theorem Lexes.cut {text rest : Text} {lexemes : List Lexeme} (h : Lexes text lexemes rest)
    {column : Nat} {before after : List Tile} {t : Tile}
    (ht : tiles column lexemes = before ++ t :: after) :
    t.Cut (column + (before.flatMap Tile.span).length) := by
  induction h generalizing column before with
  | done => simp [tiles] at ht
  | cons hf _ ih =>
    cases before with
    | nil =>
      obtain ⟨rfl, _⟩ := List.cons.inj ht
      exact (first?_eq_some_iff.1 hf).2.cut column
    | cons b before =>
      obtain ⟨rfl, htail⟩ := List.cons.inj ht
      have hc := ih htail
      simpa [tile, Nat.add_assoc] using hc

theorem Lexes.adjoins {text rest : Text} {lexemes : List Lexeme} (h : Lexes text lexemes rest)
    {column : Nat} {before after : List Tile} {t u : Tile}
    (ht : tiles column lexemes = before ++ t :: u :: after) : t.Adjoins u := by
  induction h generalizing column before with
  | done => simp [tiles] at ht
  | cons hf hl ih =>
    cases before with
    | nil =>
      obtain ⟨rfl, htail⟩ := List.cons.inj ht
      cases hl with
      | done => simp [tiles] at htail
      | cons hf' =>
        obtain ⟨rfl, _⟩ := List.cons.inj htail
        obtain ⟨rfl, hn⟩ := first?_eq_some_iff.1 hf'
        exact (first?_eq_some_iff.1 hf).2.adjoins hn _ _
    | cons b before => exact ih (List.cons.inj ht).2

theorem Lexes.text_ne_nil {text rest : Text} {lexemes : List Lexeme}
    (h : Lexes text lexemes rest) {column : Nat} :
    ∀ t ∈ placed column lexemes, t.text ≠ [] := by
  induction h generalizing column with
  | done => simp [placed]
  | cons hf _ ih =>
    intro t ht
    rcases List.mem_cons.1 ht with rfl | ht
    · exact ((first?_eq_some_iff.1 hf).2.cut column).text_ne_nil
    · exact ih t ht

end Lexeme

open Lexeme

theorem text_ne_nil_of_tokenize {text : Text} {tokens : List Token}
    (h : tokenize text = .ok tokens) : ∀ t ∈ tokens, t.text ≠ [] := by
  obtain ⟨lexemes, hl, rfl⟩ := tokenize_eq_ok_iff_lexes.1 h
  exact hl.text_ne_nil

theorem tokenize_tiling {text : Text} {tokens : List Token} (h : tokenize text = .ok tokens) :
    ∃ tiles : List Tile, tiles.map Tile.token = tokens ∧ Tiling text tiles := by
  obtain ⟨lexemes, rest, hl, hr⟩ := exists_lexes text
  rw [tokenize_of_lexes hl hr] at h
  split at h
  · next he =>
    subst he
    refine ⟨tiles 0 lexemes, ?_, ?_, ?_, ?_⟩
    · rw [token_tiles]
      exact Except.ok.inj h
    · rw [span_tiles, hl.spans_append_rest, List.append_nil]
    · intro before tile after ht
      simpa using hl.cut ht
    · intro before tile next after ht
      exact hl.adjoins ht
  · simp at h

theorem tokenize_tiling_quoted_keyword :
    tokenize "é \t\"a\\\"\"ANDb".toList = .ok [⟨.text, ['é'], 0⟩, ⟨.whitespace, [' ', '\t'], 1⟩,
        ⟨.text, ['a', '"'], 3⟩, ⟨.logicalOperator, "AND".toList, 8⟩, ⟨.text, ['b'], 11⟩] ∧
      ∃ tiles : List Tile, tiles.map Tile.token = [⟨.text, ['é'], 0⟩, ⟨.whitespace, [' ', '\t'], 1⟩,
        ⟨.text, ['a', '"'], 3⟩, ⟨.logicalOperator, "AND".toList, 8⟩, ⟨.text, ['b'], 11⟩] ∧
        Tiling "é \t\"a\\\"\"ANDb".toList tiles := by
  have h : tokenize "é \t\"a\\\"\"ANDb".toList = .ok [⟨.text, ['é'], 0⟩,
      ⟨.whitespace, [' ', '\t'], 1⟩, ⟨.text, ['a', '"'], 3⟩,
      ⟨.logicalOperator, "AND".toList, 8⟩, ⟨.text, ['b'], 11⟩] := by cbv
  exact ⟨h, tokenize_tiling h⟩

end FieldQuery
