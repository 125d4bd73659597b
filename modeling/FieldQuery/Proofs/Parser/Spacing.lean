import FieldQuery.Proofs.Parser.Ahead
import FieldQuery.Proofs.Parser.Columns
import FieldQuery.Proofs.Parser.Fragment
set_option autoImplicit false

namespace FieldQuery

/-- A list of tokens is read alike as it stands, with its whitespace hidden and without it. -/
theorem parseTokens_significant (tokens : List Token) :
    (Parser.read (SkipWhitespace.mk (Replay.ofList tokens))).1 = parseTokens tokens ∧
      parseTokens (significant tokens) = parseTokens tokens := by
  refine ⟨Parser.read_skipWhitespace _, ?_⟩
  rw [parseTokens_conclude, parseTokens_conclude, Parser.State.conclude_significant]

/-- Where a column stands after characters were put in at one place. -/
def afterInsertion (start width column : Nat) : Nat :=
  if column < start then column else column + width

namespace Lexeme

theorem StandsBefore.instead {lexeme : Lexeme} {rest more : Text} (h : lexeme.StandsBefore rest)
    (hk : lexeme.kind ≠ .whitespace)
    (hm : ∀ c ∈ more.head?, c ∈ rest.head? ∨ isWordChar c = false) : lexeme.StandsBefore more := by
  cases h with
  | openGroup => exact .openGroup
  | closeGroup => exact .closeGroup
  | comparator => exact .comparator
  | operator op => exact .operator op
  | negator => exact .negator
  | quoted hne hq => exact .quoted hne hq
  | blank => exact absurd rfl hk
  | word hne hs hw hr => exact .word hne hs hw fun c hc => (hm c hc).elim (hr c) id

theorem head?_not_blank {text rest : Text} {lexeme : Lexeme}
    (h : first? text = some (lexeme, rest)) (hk : lexeme.kind ≠ .whitespace) :
    ∀ c ∈ text.head?, Unicode.isWhitespace c = false := by
  intro c hc
  obtain ⟨tail, rfl⟩ := List.head?_eq_some_iff.1 hc
  cases hw : Unicode.isWhitespace c with
  | false => rfl
  | true =>
    rw [first?_blank hw] at h
    obtain ⟨rfl, -⟩ := Prod.mk.inj (Option.some.inj h)
    exact absurd rfl hk

theorem exists_lexes_blank {span text : Text} {lexemes : List Lexeme}
    (hs : ∀ c ∈ span, Unicode.isWhitespace c = true) (h : Lexes text lexemes []) :
    ∃ spaced, Lexes (span ++ text) spaced [] ∧ ∀ column,
      significant (placed column spaced) = significant (placed (column + span.length) lexemes) := by
  by_cases hne : span = []
  · subst hne
    exact ⟨lexemes, h, fun _ => rfl⟩
  cases h with
  | done =>
    have hb : (verbatim .whitespace span).StandsBefore [] := .blank hne hs (by simp)
    exact ⟨_, hb.lexes .done, fun _ => rfl⟩
  | @cons _ middle _ lexeme lexemes hf hl =>
    by_cases hk : lexeme.kind = .whitespace
    · obtain ⟨rfl, hst⟩ := first?_eq_some_iff.1 hf
      obtain ⟨hs', hr⟩ := hst.of_whitespace hk
      have hb : (verbatim .whitespace (span ++ lexeme.span)).StandsBefore middle := by
        refine .blank (by simp [hne]) (fun c hc => ?_) hr
        exact (List.mem_append.1 hc).elim (hs c) (hs' c)
      have hlex := hb.lexes hl
      rw [verbatim, List.append_assoc] at hlex
      refine ⟨_, hlex, fun column => ?_⟩
      rw [placed, placed, significant_cons_of_eq rfl, significant_cons_of_eq hk]
      simp [Nat.add_assoc]
    · have hb : (verbatim .whitespace span).StandsBefore text :=
        .blank hne hs (head?_not_blank hf hk)
      exact ⟨_, hb.lexes (.cons hf hl), fun _ => significant_cons_of_eq rfl _⟩

/-- A text that is cut off another one is cut alike in front of anything that does not go on with
its last word, up to whitespace where the two meet. -/
theorem Lexes.exists_lexes_before {text rest more : Text} {front back : List Lexeme}
    (h : Lexes text front rest) (hmore : Lexes more back [])
    (hm : ∀ c ∈ more.head?, c ∈ rest.head? ∨ isWordChar c = false) :
    ∃ whole, Lexes (spans front ++ more) whole [] ∧ ∀ column,
      significant (placed column whole) = significant (placed column front) ++
        significant (placed (column + (spans front).length) back) := by
  induction h with
  | done => exact ⟨back, hmore, fun _ => rfl⟩
  | @cons text middle rest lexeme lexemes hf hl ih =>
    obtain ⟨whole, hw, ht⟩ := ih hm
    obtain ⟨rfl, hst⟩ := first?_eq_some_iff.1 hf
    have hmid := hl.spans_append_rest
    by_cases hk : lexeme.kind = .whitespace
    · obtain ⟨spaced, hsp, hts⟩ := exists_lexes_blank (hst.of_whitespace hk).1 hw
      refine ⟨spaced, by rwa [spans_cons, List.append_assoc], fun column => ?_⟩
      rw [hts, ht, placed, significant_cons_of_eq hk, spans_cons, List.length_append, Nat.add_assoc]
    · have hst' : lexeme.StandsBefore (spans lexemes ++ more) := by
        refine hst.instead hk ?_
        rw [hmid]
        cases spans lexemes with
        | nil => exact hm
        | cons c span => exact fun d hd => .inl hd
      refine ⟨lexeme :: whole, ?_, fun column => ?_⟩
      · rw [spans_cons, List.append_assoc]
        exact hst'.lexes hw
      · rw [placed, placed, significant_cons_of_ne hk, significant_cons_of_ne hk, ht, spans_cons,
          List.length_append, Nat.add_assoc]
        rfl

theorem Lexes.exists_middle {text rest : Text} {front back : List Lexeme}
    (h : Lexes text (front ++ back) rest) :
    ∃ middle, Lexes text front middle ∧ Lexes middle back rest := by
  induction front generalizing text with
  | nil => exact ⟨text, .done, h⟩
  | cons lexeme front ih =>
    cases h with
    | cons hf hl =>
      obtain ⟨middle, hfront, hback⟩ := ih hl
      exact ⟨middle, .cons hf hfront, hback⟩

theorem exists_of_mem_placed {column : Nat} {lexemes : List Lexeme} {t : Token}
    (h : t ∈ placed column lexemes) :
    ∃ front back, lexemes = front ++ back ∧ t.column = column + (spans front).length := by
  induction lexemes generalizing column with
  | nil => cases h
  | cons lexeme lexemes ih =>
    rcases List.mem_cons.1 h with rfl | ht
    · exact ⟨[], lexeme :: lexemes, rfl, rfl⟩
    · obtain ⟨front, back, rfl, hc⟩ := ih ht
      exact ⟨lexeme :: front, back, rfl, by simp [hc, Nat.add_assoc]⟩

theorem exists_lexes_of_boundary {front back : Text} {lexemes : List Lexeme}
    (h : Lexes (front ++ back) lexemes [])
    (hb : back = [] ∨ ∃ t ∈ placed 0 lexemes, t.column = front.length) :
    ∃ before after, lexemes = before ++ after ∧ spans before = front ∧
      Lexes (front ++ back) before back ∧ Lexes back after [] := by
  rcases hb with rfl | ⟨t, ht, hc⟩
  · have hs := h.spans_append_rest
    rw [List.append_nil, List.append_nil] at hs
    exact ⟨lexemes, [], by simp, hs.symm, h, .done⟩
  · obtain ⟨before, after, rfl, hcol⟩ := exists_of_mem_placed ht
    obtain ⟨middle, hfront, hafter⟩ := h.exists_middle
    have hlen : front.length = (spans before).length := by omega
    obtain ⟨rfl, rfl⟩ := List.append_inj hfront.spans_append_rest hlen
    exact ⟨before, after, rfl, rfl, hfront, hafter⟩

theorem le_column_of_mem_placed {column : Nat} {lexemes : List Lexeme} {t : Token}
    (h : t ∈ placed column lexemes) : column ≤ t.column := by
  obtain ⟨front, back, -, hc⟩ := exists_of_mem_placed h
  omega

theorem placed_afterInsertion {text rest : Text} {front : List Lexeme} (h : Lexes text front rest)
    (width : Nat) (back : List Lexeme) :
    (placed 0 (front ++ back)).map (.moved (afterInsertion (spans front).length width)) =
      placed 0 front ++ placed ((spans front).length + width) back := by
  have hfront : ∀ t ∈ placed 0 front,
      t.moved (afterInsertion (spans front).length width) = t := by
    intro t ht
    have hlt := h.column_lt t ht
    have hc : afterInsertion (spans front).length width t.column = t.column :=
      if_pos (by omega)
    rw [Token.moved, hc]
  have hback : ∀ t ∈ placed (spans front).length back,
      t.moved (afterInsertion (spans front).length width) = shifted width t := by
    intro t ht
    have hle := le_column_of_mem_placed ht
    have hc : afterInsertion (spans front).length width t.column = width + t.column := by
      rw [afterInsertion, if_neg (by omega), Nat.add_comm]
    rw [Token.moved, hc, shifted]
  rw [placed_append, List.map_append, Nat.zero_add, List.map_congr_left hfront, List.map_id',
    List.map_congr_left hback, ← placed_add, Nat.add_comm width]

end Lexeme

open Lexeme

theorem exists_lexes_spaced {front blank back : Text} {lexemes : List Lexeme}
    (h : Lexes (front ++ back) lexemes [])
    (hb : back = [] ∨ ∃ t ∈ placed 0 lexemes, t.column = front.length)
    (hw : ∀ c ∈ blank, Unicode.isWhitespace c = true) :
    ∃ spaced, Lexes (front ++ blank ++ back) spaced [] ∧ significant (placed 0 spaced) =
      (significant (placed 0 lexemes)).map (.moved (afterInsertion front.length blank.length)) := by
  obtain ⟨before, after, rfl, rfl, hbefore, hafter⟩ := exists_lexes_of_boundary h hb
  obtain ⟨joined, hjoined, htokens⟩ := exists_lexes_blank hw hafter
  have hhead : ∀ c ∈ (blank ++ back).head?, c ∈ back.head? ∨ isWordChar c = false := by
    cases blank with
    | nil => exact fun c hc => .inl hc
    | cons d blank =>
      intro c hc
      obtain rfl := Option.some.inj hc
      exact .inr (isWordChar_eq_false_of_isWhitespace (hw d (by simp)))
  obtain ⟨spaced, hspaced, hs⟩ := hbefore.exists_lexes_before hjoined hhead
  refine ⟨spaced, by rwa [List.append_assoc], ?_⟩
  rw [hs, htokens, Nat.zero_add, ← significant_append, ← placed_afterInsertion hbefore]
  exact significant_map (Token.moves_moved _) _

/-- Whitespace put in between two tokens, or at either end, changes nothing but the columns behind
it. -/
theorem parse_spaced {front blank back : Text} {tokens : List Token}
    (h : tokenize (front ++ back) = .ok tokens)
    (hb : back = [] ∨ ∃ t ∈ tokens, t.column = front.length)
    (hw : ∀ c ∈ blank, Unicode.isWhitespace c = true) :
    (∃ spaced, tokenize (front ++ blank ++ back) = .ok spaced) ∧
      (∀ node, parse (front ++ blank ++ back) = .ok node ↔ parse (front ++ back) = .ok node) ∧
      ∀ e, parse (front ++ back) = .error e → ∃ fault column, e = .semantic fault column ∧
        parse (front ++ blank ++ back) =
          .error (.semantic fault (column.map (afterInsertion front.length blank.length))) := by
  obtain ⟨lexemes, hl, rfl⟩ := tokenize_eq_ok_iff_lexes.1 h
  obtain ⟨spaced, hspaced, hs⟩ := exists_lexes_spaced hl hb hw
  have hold : parse (front ++ back) = Parser.State.initial.conclude (placed 0 lexemes) none :=
    parse_of_lexes hl rfl
  have hnew : parse (front ++ blank ++ back) = (parse (front ++ back)).mapError
      (.moved (afterInsertion front.length blank.length)) := by
    rw [parse_of_lexes hspaced rfl, ← Parser.State.conclude_significant, hs,
      Tokenizer.failure, if_pos rfl, Parser.State.conclude_moved,
      Parser.State.conclude_significant, hold]
  refine ⟨⟨placed 0 spaced, tokenize_eq_ok_iff_lexes.2 ⟨spaced, hspaced, rfl⟩⟩, fun node => ?_,
    fun e he => ?_⟩
  · rw [hnew, Except.mapError_eq_ok_iff]
  · obtain ⟨fault, column, rfl⟩ := Parser.State.conclude_ended_error (hold ▸ he)
    exact ⟨fault, column, rfl, by rw [hnew, he]; rfl⟩

theorem parse_spaced_keyword :
    (tokenize ("a:1 AND".toList ++ "b:2)".toList) = .ok [⟨.text, ['a'], 0⟩,
        ⟨.comparator, [':'], 1⟩, ⟨.text, ['1'], 2⟩, ⟨.whitespace, [' '], 3⟩,
        ⟨.logicalOperator, "AND".toList, 4⟩, ⟨.text, ['b'], 7⟩, ⟨.comparator, [':'], 8⟩,
        ⟨.text, ['2'], 9⟩, ⟨.closeGroup, [')'], 10⟩] ∧
      ∀ c ∈ "\t\n ".toList, Unicode.isWhitespace c = true) ∧
    parse ("a:1 AND".toList ++ "b:2)".toList) = .error (.semantic .tooManyClosed (some 10)) ∧
    parse ("a:1 AND".toList ++ "\t\n ".toList ++ "b:2)".toList) =
      .error (.semantic .tooManyClosed (some 13)) := by
  have h : tokenize ("a:1 AND".toList ++ "b:2)".toList) = .ok [⟨.text, ['a'], 0⟩,
      ⟨.comparator, [':'], 1⟩, ⟨.text, ['1'], 2⟩, ⟨.whitespace, [' '], 3⟩,
      ⟨.logicalOperator, "AND".toList, 4⟩, ⟨.text, ['b'], 7⟩, ⟨.comparator, [':'], 8⟩,
      ⟨.text, ['2'], 9⟩, ⟨.closeGroup, [')'], 10⟩] := by rfl
  have hw : ∀ c ∈ "\t\n ".toList, Unicode.isWhitespace c = true := List.all_eq_true.1 rfl
  have he : parse ("a:1 AND".toList ++ "b:2)".toList) =
      .error (.semantic .tooManyClosed (some 10)) := by rfl
  obtain ⟨-, -, herror⟩ := parse_spaced h (.inr ⟨⟨.text, ['b'], 7⟩, by simp, rfl⟩) hw
  obtain ⟨fault, column, hf, hspaced⟩ := herror _ he
  cases hf
  exact ⟨⟨h, hw⟩, he, hspaced⟩

end FieldQuery
