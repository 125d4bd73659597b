import FieldQuery.Proofs.Tokenizer
set_option autoImplicit false

namespace FieldQuery.Lexeme

/-- The smallest parts of a text that can be cut. -/
inductive Piece : Text → Prop where
  | blank {c : Char} : Unicode.isWhitespace c = true → Piece [c]
  | punctuation {c : Char} : c ∈ ['(', ')', ':'] → Piece [c]
  | word {c : Char} : isWordChar c = true → Piece [c]
  | quoted {body : Text} : body ≠ [] → QuotedBody body → Piece ('"' :: body ++ ['"'])

inductive Lexical : Text → Prop where
  | nil : Lexical []
  | append {piece text : Text} : Piece piece → Lexical text → Lexical (piece ++ text)

theorem Piece.ne_nil {piece : Text} (h : Piece piece) : piece ≠ [] := by
  cases h <;> simp

theorem Piece.eq_quoted {piece tail : Text} (h : Piece piece) (hq : piece = '"' :: tail) :
    ∃ body, QuotedBody body ∧ tail = body ++ ['"'] := by
  cases h with
  | blank hc =>
    obtain ⟨rfl, rfl⟩ := List.cons.inj hq
    exact absurd hc (by decide)
  | punctuation hc =>
    obtain ⟨rfl, rfl⟩ := List.cons.inj hq
    exact absurd hc (by decide)
  | word hc =>
    obtain ⟨rfl, rfl⟩ := List.cons.inj hq
    exact absurd hc (by decide)
  | @quoted body hne hb => exact ⟨body, hb, (List.cons.inj hq).2.symm⟩

theorem Piece.eq_single {piece tail : Text} {c : Char} (h : Piece piece) (hp : piece = c :: tail)
    (hc : c ≠ '"') : tail = [] := by
  cases h with
  | blank => exact (List.cons.inj hp).2.symm
  | punctuation => exact (List.cons.inj hp).2.symm
  | word => exact (List.cons.inj hp).2.symm
  | quoted => exact absurd (List.cons.inj hp).1.symm hc

theorem Piece.unique {p q x y : Text} (hp : Piece p) (hq : Piece q) (h : p ++ x = q ++ y) :
    p = q := by
  obtain ⟨c, p', rfl⟩ := List.exists_cons_of_ne_nil hp.ne_nil
  obtain ⟨d, q', rfl⟩ := List.exists_cons_of_ne_nil hq.ne_nil
  obtain ⟨rfl, ht⟩ := List.cons.inj h
  by_cases hc : c = '"'
  · subst hc
    obtain ⟨b, hb, rfl⟩ := hp.eq_quoted rfl
    obtain ⟨b', hb', rfl⟩ := hq.eq_quoted rfl
    have hs := hb.splitQuoted x
    have hs' := hb'.splitQuoted y
    simp only [List.append_eq, List.append_assoc, List.cons_append, List.nil_append] at ht
    rw [ht, hs'] at hs
    rw [(Prod.mk.inj (Option.some.inj hs)).1]
  · rw [hp.eq_single rfl hc, hq.eq_single rfl hc]

theorem Lexical.of_piece {piece : Text} (h : Piece piece) : Lexical piece := by
  simpa using Lexical.append h .nil

theorem Lexical.append_lexical {a b : Text} (ha : Lexical a) (hb : Lexical b) :
    Lexical (a ++ b) := by
  induction ha with
  | nil => exact hb
  | append hp _ ih => rw [List.append_assoc]; exact .append hp ih

theorem Lexical.of_piece_append {piece text : Text} (hp : Piece piece)
    (h : Lexical (piece ++ text)) : Lexical text := by
  generalize ht : piece ++ text = whole at h
  cases h with
  | nil => exact absurd (List.append_eq_nil_iff.1 ht).1 hp.ne_nil
  | append hq hr =>
    have he := hp.unique hq ht
    subst he
    rwa [List.append_cancel_left ht]

theorem Lexical.of_append {a b : Text} (ha : Lexical a) (h : Lexical (a ++ b)) : Lexical b := by
  induction ha with
  | nil => exact h
  | append hp _ ih =>
    rw [List.append_assoc] at h
    exact ih (h.of_piece_append hp)

theorem Lexical.of_all {p : Char → Bool} {text : Text} (hp : ∀ c, p c = true → Piece [c])
    (h : ∀ c ∈ text, p c = true) : Lexical text := by
  induction text with
  | nil => exact .nil
  | cons c text ih =>
    exact .append (hp c (h c (by simp))) (ih fun d hd => h d (by simp [hd]))

theorem StandsBefore.lexical {lexeme : Lexeme} {rest : Text} (h : lexeme.StandsBefore rest) :
    Lexical lexeme.span := by
  have hw : ∀ span : Text, (∀ c ∈ span, isWordChar c = true) → Lexical span :=
    fun span => Lexical.of_all fun c hc => .word hc
  cases h with
  | openGroup => exact .of_piece (.punctuation (by simp))
  | closeGroup => exact .of_piece (.punctuation (by simp))
  | comparator => exact .of_piece (.punctuation (by simp))
  | operator op => exact hw _ (List.all_eq_true.1 (by cases op <;> decide))
  | negator => exact hw _ (List.all_eq_true.1 (by decide))
  | quoted hne hb => exact .of_piece (.quoted hne hb)
  | blank _ hs => exact .of_all (fun c hc => .blank hc) hs
  | word _ hs => exact hw _ hs

theorem Lexes.lexical {text rest : Text} {lexemes : List Lexeme} (h : Lexes text lexemes rest) :
    Lexical (spans lexemes) := by
  induction h with
  | done => exact .nil
  | cons hf _ ih => exact (first?_eq_some_iff.1 hf).2.lexical.append_lexical ih

theorem first?_keyword {text : Text} (h : text.startsWithKeyword = true) :
    ∃ found, first? text = some found := by
  simp only [Text.startsWithKeyword, List.any_eq_true, List.isPrefixOf_iff_prefix] at h
  obtain ⟨keyword, hk, rest, rfl⟩ := h
  simp only [List.mem_cons, List.not_mem_nil, or_false] at hk
  rcases hk with rfl | rfl | rfl
  · exact ⟨_, (StandsBefore.operator .and).first?⟩
  · exact ⟨_, (StandsBefore.operator .or).first?⟩
  · exact ⟨_, StandsBefore.negator.first?⟩

theorem Piece.first? {piece : Text} (h : Piece piece) (rest : Text) :
    ∃ found, Lexeme.first? (piece ++ rest) = some found := by
  cases h with
  | blank hc => exact ⟨_, first?_blank hc⟩
  | punctuation hc =>
    simp only [List.mem_cons, List.not_mem_nil, or_false] at hc
    rcases hc with rfl | rfl | rfl
    · exact ⟨_, StandsBefore.openGroup.first?⟩
    · exact ⟨_, StandsBefore.closeGroup.first?⟩
    · exact ⟨_, StandsBefore.comparator.first?⟩
  | @word c hc =>
    cases hk : Text.startsWithKeyword (c :: rest) with
    | true => exact first?_keyword hk
    | false => exact ⟨_, first?_word hc hk⟩
  | quoted hne hb => exact ⟨_, (StandsBefore.quoted hne hb).first?⟩

structure LongestStart (good text : Text) : Prop where
  start : good <+: text
  lexical : Lexical good
  longest : ∀ other, other <+: text → Lexical other → other.length ≤ good.length

theorem Lexes.longestStart {text rest : Text} {lexemes : List Lexeme}
    (h : Lexes text lexemes rest) (hr : first? rest = none) :
    LongestStart (spans lexemes) text := by
  have ht := h.spans_append_rest
  refine ⟨⟨rest, ht.symm⟩, h.lexical, ?_⟩
  intro other ho hl
  refine Nat.le_of_not_lt fun hlong => ?_
  -- A longer start would go on with a piece where no lexeme starts.
  have hs : spans lexemes <+: other :=
    List.prefix_of_prefix_length_le ⟨rest, ht.symm⟩ ho (by omega)
  obtain ⟨more, rfl⟩ := hs
  cases h.lexical.of_append hl with
  | nil => simp at hlong
  | @append piece tail hp _ =>
    rw [ht, List.prefix_append_right_inj] at ho
    obtain ⟨back, rfl⟩ := ho
    obtain ⟨found, hf⟩ := hp.first? (tail ++ back)
    rw [List.append_assoc, hf] at hr
    simp at hr

theorem LongestStart.unique {a b text : Text} (ha : LongestStart a text)
    (hb : LongestStart b text) : a = b := by
  have hle := hb.longest a ha.start ha.lexical
  have hge := ha.longest b hb.start hb.lexical
  exact (List.prefix_of_prefix_length_le ha.start hb.start hle).eq_of_length (by omega)

/-- A text is cut into tokens if it is a row of pieces, and otherwise refused at the end of the
longest row of pieces that it starts with. -/
theorem tokenize_longestStart (text : Text) :
    ((∃ tokens, tokenize text = .ok tokens) ↔ Lexical text) ∧
      ∀ e, tokenize text = .error e ↔
        ∃ good, LongestStart good text ∧ good.length < text.length ∧
          e = .recognition text good.length := by
  obtain ⟨lexemes, rest, h, hr⟩ := exists_lexes text
  have hl := h.longestStart hr
  have ht := h.spans_append_rest
  rw [tokenize_of_lexes h hr]
  by_cases he : rest = []
  · subst he
    rw [List.append_nil] at ht
    refine ⟨⟨fun _ => ht ▸ h.lexical, fun _ => ⟨_, if_pos rfl⟩⟩, fun e => ⟨by simp, ?_⟩⟩
    rintro ⟨good, hg, hlt, rfl⟩
    rw [hg.unique hl, ← ht] at hlt
    omega
  · have hlt : (spans lexemes).length < text.length := by
      rw [ht, List.length_append]
      have := List.length_pos_iff.2 he
      omega
    refine ⟨⟨by simp [he], fun hall => ?_⟩, fun e => ⟨?_, ?_⟩⟩
    · have := hl.longest text (List.prefix_refl _) hall
      omega
    · intro hf
      simp only [he, if_false, Except.error.injEq] at hf
      exact ⟨_, hl, hlt, hf.symm⟩
    · rintro ⟨good, hg, _, rfl⟩
      simp [he, hg.unique hl]

end FieldQuery.Lexeme
