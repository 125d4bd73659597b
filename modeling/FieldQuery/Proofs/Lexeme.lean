import FieldQuery.Node.Query
set_option autoImplicit false

namespace FieldQuery

namespace Unicode

def whitespacePoints : List Nat :=
  whitespaceRanges.flatMap fun (lo, hi) => List.range' lo (hi + 1 - lo)

theorem mem_points_of_covers {ranges : List (Nat × Nat)} {n : Nat} (h : covers ranges n = true) :
    n ∈ ranges.flatMap fun (lo, hi) => List.range' lo (hi + 1 - lo) := by
  induction ranges with
  | nil => simp [covers] at h
  | cons range ranges ih =>
    obtain ⟨lo, hi⟩ := range
    unfold covers at h
    split at h
    · simp at h
    · next hlo =>
      rw [Bool.or_eq_true] at h
      rw [List.flatMap_cons, List.mem_append]
      rcases h with h | h
      · left
        have hhi : n ≤ hi := by simpa using h
        rw [List.mem_range'_1]
        omega
      · exact Or.inr (ih h)

theorem isAlphanumeric_eq_false_of_isWhitespace {c : Char} (h : isWhitespace c = true) :
    isAlphanumeric c = false := by
  have hm : c.toNat ∈ whitespacePoints := mem_points_of_covers h
  have ha : ∀ n ∈ whitespacePoints, isAlphanumeric (Char.ofNat n) = false := by decide +kernel
  simpa using ha c.toNat hm

end Unicode

theorem isWordChar_eq_false_of_isWhitespace {c : Char} (h : Unicode.isWhitespace c = true) :
    isWordChar c = false := by
  have hu : c ≠ '_' := by
    rintro rfl
    exact absurd h (by decide)
  simp [isWordChar, Unicode.isAlphanumeric_eq_false_of_isWhitespace h, hu]

theorem Op.ofText?_keyword (op : Op) : ofText? op.keyword = some op := by
  cases op <;> decide

namespace Text

theorem startsWithKeyword_eq_false_iff {text : Text} : text.startsWithKeyword = false ↔
    ∀ keyword ∈ ["AND".toList, "OR".toList, "NOT".toList], ¬ keyword <+: text := by
  simp only [startsWithKeyword, List.any_eq_false, List.isPrefixOf_iff_prefix]

theorem startsWithKeyword_of_prefix {text span : Text} (h : span <+: text)
    (ht : text.startsWithKeyword = false) : span.startsWithKeyword = false := by
  rw [startsWithKeyword_eq_false_iff] at ht ⊢
  exact fun keyword hk hp => ht keyword hk (hp.trans h)

theorem startsWithKeyword_append {span rest : Text} (hs : span.startsWithKeyword = false)
    (hr : ∀ c ∈ rest.head?, isWordChar c = false) : (span ++ rest).startsWithKeyword = false := by
  have hw : ∀ keyword ∈ ["AND".toList, "OR".toList, "NOT".toList],
      keyword.all isWordChar = true := by decide
  rw [startsWithKeyword_eq_false_iff] at hs ⊢
  intro keyword hk hp
  rcases List.prefix_or_prefix_of_prefix hp (List.prefix_append span rest) with h | ⟨more, h⟩
  · exact hs keyword hk h
  · cases more with
    | nil => exact hs keyword hk (by simp [← h])
    | cons c more =>
      rw [← h, List.prefix_append_right_inj] at hp
      have hc := List.all_eq_true.1 (hw keyword hk) c (by simp [← h])
      obtain ⟨tail, rfl⟩ := hp
      simp [hr c (by simp)] at hc

end Text

namespace Lexeme

/-- What stands between quotes: characters, and backslashes with the character that each of them
keeps from closing the piece. -/
inductive QuotedBody : Text → Prop where
  | nil : QuotedBody []
  | plain {c : Char} {body : Text} : c ≠ '"' → c ≠ '\\' → QuotedBody body → QuotedBody (c :: body)
  | escaped {c : Char} {body : Text} : QuotedBody body → QuotedBody ('\\' :: c :: body)

theorem QuotedBody.splitQuoted {body : Text} (h : QuotedBody body) (rest : Text) :
    splitQuoted (body ++ '"' :: rest) = some (body, rest) := by
  induction h with
  | nil => rfl
  | @plain c body hq hb _ ih =>
    have hs := Lexeme.splitQuoted.eq_5 c (body ++ '"' :: rest) (by simp [hb]) (by simp [hb])
      (by simp [hq])
    rw [List.cons_append, hs, ih]
    rfl
  | escaped _ ih => simp [Lexeme.splitQuoted, ih]

theorem splitQuoted_eq_some_iff {text body rest : Text} :
    splitQuoted text = some (body, rest) ↔ QuotedBody body ∧ text = body ++ '"' :: rest := by
  constructor
  · intro h
    fun_induction splitQuoted text generalizing body rest with
    | case1 => simp at h
    | case2 => simp at h
    | case3 c tail ih =>
      obtain ⟨⟨b, r⟩, hs, he⟩ := Option.map_eq_some_iff.1 h
      obtain ⟨rfl, rfl⟩ := Prod.mk.inj he
      obtain ⟨hb, rfl⟩ := ih hs
      exact ⟨.escaped hb, rfl⟩
    | case4 tail =>
      obtain ⟨rfl, rfl⟩ := Prod.mk.inj (Option.some.inj h)
      exact ⟨.nil, rfl⟩
    | case5 c tail hlast hmore hq ih =>
      have hb : c ≠ '\\' := by
        intro hc
        cases tail with
        | nil => exact hlast hc rfl
        | cons d ds => exact hmore d ds hc rfl
      obtain ⟨⟨b, r⟩, hs, he⟩ := Option.map_eq_some_iff.1 h
      obtain ⟨rfl, rfl⟩ := Prod.mk.inj he
      obtain ⟨hbody, rfl⟩ := ih hs
      exact ⟨.plain hq hb hbody, rfl⟩
  · rintro ⟨h, rfl⟩
    exact h.splitQuoted rest

/-- The shape of a lexeme together with what can follow it: a run is as long as it can be, and a
word starts with no keyword. -/
inductive StandsBefore : Lexeme → Text → Prop where
  | openGroup {rest : Text} : StandsBefore (verbatim .openGroup ['(']) rest
  | closeGroup {rest : Text} : StandsBefore (verbatim .closeGroup [')']) rest
  | comparator {rest : Text} : StandsBefore (verbatim .comparator [':']) rest
  | operator {rest : Text} (op : Op) : StandsBefore (verbatim .logicalOperator op.keyword) rest
  | negator {rest : Text} : StandsBefore (verbatim .negator "NOT".toList) rest
  | quoted {body rest : Text} : body ≠ [] → QuotedBody body →
      StandsBefore ⟨.text, Token.unescape body, '"' :: body ++ ['"']⟩ rest
  | blank {span rest : Text} : span ≠ [] → (∀ c ∈ span, Unicode.isWhitespace c = true) →
      (∀ c ∈ rest.head?, Unicode.isWhitespace c = false) →
      StandsBefore (verbatim .whitespace span) rest
  | word {span rest : Text} : span ≠ [] → (∀ c ∈ span, isWordChar c = true) →
      span.startsWithKeyword = false → (∀ c ∈ rest.head?, isWordChar c = false) →
      StandsBefore (verbatim .text span) rest

theorem quoted?_sound {text rest : Text} {lexeme : Lexeme}
    (h : quoted? text = some (lexeme, rest)) :
    '"' :: text = lexeme.span ++ rest ∧ lexeme.StandsBefore rest := by
  unfold quoted? at h
  split at h
  · next c body r hs =>
    obtain ⟨rfl, rfl⟩ := Prod.mk.inj (Option.some.inj h)
    obtain ⟨hb, rfl⟩ := splitQuoted_eq_some_iff.1 hs
    exact ⟨by simp, .quoted (by simp) hb⟩
  · simp at h

theorem head?_dropWhile_eq_false {p : Char → Bool} {text : Text} :
    ∀ c ∈ (text.dropWhile p).head?, p c = false := by
  intro c hc
  have h := List.head?_dropWhile_not p text
  rw [Option.mem_def.1 hc] at h
  simpa using h

theorem first?_sound {text rest : Text} {lexeme : Lexeme}
    (h : first? text = some (lexeme, rest)) :
    text = lexeme.span ++ rest ∧ lexeme.StandsBefore rest := by
  unfold first? at h
  split at h
  · simp at h
  · obtain ⟨rfl, rfl⟩ := Prod.mk.inj (Option.some.inj h)
    exact ⟨rfl, .openGroup⟩
  · obtain ⟨rfl, rfl⟩ := Prod.mk.inj (Option.some.inj h)
    exact ⟨rfl, .closeGroup⟩
  · obtain ⟨rfl, rfl⟩ := Prod.mk.inj (Option.some.inj h)
    exact ⟨rfl, .operator .and⟩
  · obtain ⟨rfl, rfl⟩ := Prod.mk.inj (Option.some.inj h)
    exact ⟨rfl, .operator .or⟩
  · obtain ⟨rfl, rfl⟩ := Prod.mk.inj (Option.some.inj h)
    exact ⟨rfl, .negator⟩
  · obtain ⟨rfl, rfl⟩ := Prod.mk.inj (Option.some.inj h)
    exact ⟨rfl, .comparator⟩
  · exact quoted?_sound h
  · next c tail hopen hclose hand hor hnot hcolon hquote =>
    have hall : ∀ p : Char → Bool, ∀ d ∈ (c :: tail).takeWhile p, p d = true :=
      fun p => List.all_eq_true.1 List.all_takeWhile
    split at h
    · next hw =>
      obtain ⟨rfl, rfl⟩ := Prod.mk.inj (Option.some.inj h)
      refine ⟨by simp [verbatim, List.takeWhile_append_dropWhile],
        .blank ?_ (hall _) head?_dropWhile_eq_false⟩
      simp [hw]
    · split at h
      · next hw =>
        obtain ⟨rfl, rfl⟩ := Prod.mk.inj (Option.some.inj h)
        have hk : Text.startsWithKeyword (c :: tail) = false := by
          rw [Text.startsWithKeyword_eq_false_iff]
          rintro keyword hm ⟨rest, hp⟩
          simp only [List.mem_cons, List.not_mem_nil, or_false] at hm
          rcases hm with rfl | rfl | rfl
          · cases hp
            exact hand rest rfl rfl
          · cases hp
            exact hor rest rfl rfl
          · cases hp
            exact hnot rest rfl rfl
        refine ⟨by simp [verbatim, List.takeWhile_append_dropWhile],
          .word ?_ (hall _) ?_ head?_dropWhile_eq_false⟩
        · simp [hw]
        · exact Text.startsWithKeyword_of_prefix (List.takeWhile_prefix _) hk
      · simp at h

theorem run_append (kind : Kind) {p : Char → Bool} {span rest : Text}
    (hs : ∀ c ∈ span, p c = true) (hr : ∀ c ∈ rest.head?, p c = false) :
    run kind p (span ++ rest) = (verbatim kind span, rest) := by
  have ht : rest.takeWhile p = [] ∧ rest.dropWhile p = rest := by
    cases rest with
    | nil => simp
    | cons c rest => simp [hr c (by simp)]
  simp [run, List.takeWhile_append_of_pos hs, List.dropWhile_append_of_pos hs, ht.1, ht.2]

theorem first?_blank {c : Char} {tail : Text} (hc : Unicode.isWhitespace c = true) :
    first? (c :: tail) = some (run .whitespace Unicode.isWhitespace (c :: tail)) := by
  have hne : ∀ d : Char, Unicode.isWhitespace d = false → c = d → False := by
    rintro d hd rfl
    simp [hc] at hd
  rw [first?.eq_9 _ _ (hne '(' (by decide)) (hne ')' (by decide))
    (fun _ h _ => hne 'A' (by decide) h) (fun _ h _ => hne 'O' (by decide) h)
    (fun _ h _ => hne 'N' (by decide) h) (hne ':' (by decide)) (hne '"' (by decide)), if_pos hc]

theorem first?_word {c : Char} {tail : Text} (hc : isWordChar c = true)
    (hk : Text.startsWithKeyword (c :: tail) = false) :
    first? (c :: tail) = some (run .text isWordChar (c :: tail)) := by
  have hne : ∀ d : Char, isWordChar d = false → c = d → False := by
    rintro d hd rfl
    simp [hc] at hd
  have hw : ¬ Unicode.isWhitespace c = true := by
    intro hw
    simp [isWordChar_eq_false_of_isWhitespace hw] at hc
  rw [Text.startsWithKeyword_eq_false_iff] at hk
  rw [first?.eq_9 _ _ (hne '(' (by decide)) (hne ')' (by decide))
    (fun r h ht => hk "AND".toList (by simp) ⟨r, by rw [h, ht]; rfl⟩)
    (fun r h ht => hk "OR".toList (by simp) ⟨r, by rw [h, ht]; rfl⟩)
    (fun r h ht => hk "NOT".toList (by simp) ⟨r, by rw [h, ht]; rfl⟩)
    (hne ':' (by decide)) (hne '"' (by decide)), if_neg hw, if_pos hc]

theorem StandsBefore.first? {lexeme : Lexeme} {rest : Text} (h : lexeme.StandsBefore rest) :
    Lexeme.first? (lexeme.span ++ rest) = some (lexeme, rest) := by
  cases h with
  | openGroup => rfl
  | closeGroup => rfl
  | comparator => rfl
  | operator op => cases op <;> rfl
  | negator => rfl
  | @quoted body rest hne hb =>
    obtain ⟨c, body, rfl⟩ := List.exists_cons_of_ne_nil hne
    have hs := hb.splitQuoted rest
    rw [List.cons_append] at hs
    simp [Lexeme.first?, quoted?, hs]
  | @blank span rest hne hs hr =>
    obtain ⟨c, span, rfl⟩ := List.exists_cons_of_ne_nil hne
    have hrun := run_append .whitespace hs hr
    exact (first?_blank (hs c (by simp))).trans (congrArg some hrun)
  | @word span rest hne hs hk hr =>
    obtain ⟨c, span, rfl⟩ := List.exists_cons_of_ne_nil hne
    have hrun := run_append .text hs hr
    have hkr := Text.startsWithKeyword_append hk hr
    exact (first?_word (hs c (by simp)) hkr).trans (congrArg some hrun)

/-- Which lexeme is cut off the front of a text is decided by its shape and by what follows it. -/
theorem first?_eq_some_iff {text rest : Text} {lexeme : Lexeme} :
    first? text = some (lexeme, rest) ↔
      text = lexeme.span ++ rest ∧ lexeme.StandsBefore rest := by
  constructor
  · exact first?_sound
  · rintro ⟨rfl, h⟩
    exact h.first?

end Lexeme

end FieldQuery
