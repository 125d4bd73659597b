import FieldQuery.Toml.String
import Mathlib.Data.List.Infix
set_option autoImplicit false

/-! Strings of every form, written and read back. Between the delimiters of a form stands a body, and
one rule for bodies serves all forms: every character stands for itself or is escaped, and no
delimiter begins inside. A long body may end in quotes of its own, which only the delimiter behind
them tells from its own. -/

namespace FieldQuery.Toml

/-- A character that may stand for itself in a form, quotes apart. -/
def Form.Holds (form : Form) (c : Char) : Prop :=
  (c = '\n' ∧ form.multiline = true) ∨ (isForbidden c = false ∧ ¬ (c = '\\' ∧ form.quote = '"'))

/-- A body in front of a closing delimiter, and the text that it says. -/
inductive Spells (form : Form) : Text → Text → Prop where
  | nil : Spells form [] []
  | plain {c : Char} {body text : Text} : form.Holds c → ¬ form.delimiter <+: c :: body →
      Spells form body text → Spells form (c :: body) (c :: text)
  | escape {c : Char} {letters body text : Text} : form.quote = '"' →
      (∀ rest, escape? (letters ++ rest) = some (c, rest)) → Spells form body text →
      Spells form ('\\' :: (letters ++ body)) (c :: text)

variable {form : Form}

theorem Form.Holds.ne_of_isForbidden {c d : Char} (h : form.Holds c) (hd : isForbidden d = true)
    (hn : d ≠ '\n') : c ≠ d := by
  rintro rfl
  rcases h with ⟨rfl, -⟩ | ⟨hc, -⟩
  · exact hn rfl
  · rw [hd] at hc
    cases hc

section Steps

variable {fuel : Nat} {c : Char} {text rest : Text}

theorem bodyWithin_closing {closed : Text × Text} (h : closing? form text = some closed) :
    bodyWithin form (fuel + 1) text = some closed := by
  simp [bodyWithin, h]

theorem bodyWithin_plain (hc : form.Holds c) (h : closing? form (c :: rest) = none) :
    bodyWithin form (fuel + 1) (c :: rest) =
      (bodyWithin form fuel rest).map fun (body, rest) => (c :: body, rest) := by
  have hr : c ≠ '\r' := hc.ne_of_isForbidden (by decide) (by decide)
  rcases hc with ⟨rfl, hm⟩ | ⟨hc, hb⟩
  · simp [bodyWithin, h, hm]
  · have hn : c ≠ '\n' := by
      rintro rfl
      simp [isForbidden, isControl] at hc
    simp [bodyWithin, h, hb, hn, hr, hc]

theorem closing?_backslash (hq : form.quote = '"') : closing? form ('\\' :: rest) = none := by
  cases hm : form.multiline <;> simp [closing?, Form.delimiter, hm, hq, List.replicate]

theorem bodyWithin_escape (hq : form.quote = '"') (h : escape? text = some (c, rest)) :
    bodyWithin form (fuel + 1) ('\\' :: text) =
      (bodyWithin form fuel rest).map fun (body, rest) => (c :: body, rest) := by
  simp [bodyWithin, closing?_backslash hq, hq, h]

end Steps

theorem takeWhile_take_eq_nil {q : Char} {rest : Text} (h : rest.head? ≠ some q) (n : Nat) :
    (rest.take n).takeWhile (· = q) = [] := by
  cases rest with
  | nil => simp
  | cons c rest => cases n <;> simp_all

theorem closing?_delimiter {rest : Text} (hr : rest.head? ≠ some form.quote) :
    closing? form (form.delimiter ++ rest) = some ([], rest) := by
  obtain ⟨q, multiline⟩ := form
  cases multiline with
  | false => simp [closing?, Form.delimiter]
  | true =>
    have hq := takeWhile_take_eq_nil hr 2
    simp [closing?, Form.delimiter, List.replicate, hq]

/-- A delimiter that begins inside a body ends behind it, so that the body is nothing but quotes. -/
theorem closing?_body {body rest : Text} (hne : body ≠ []) (hd : ¬ form.delimiter <+: body)
    (hr : rest.head? ≠ some form.quote) :
    closing? form (body ++ (form.delimiter ++ rest)) = none ∨
      closing? form (body ++ (form.delimiter ++ rest)) = some (body, rest) ∧
        ∀ c ∈ body, c = form.quote := by
  obtain ⟨q, multiline⟩ := form
  cases multiline with
  | false =>
    obtain ⟨c, body, rfl⟩ := List.exists_cons_of_ne_nil hne
    have hc : c ≠ q := by
      rintro rfl
      exact hd (by simp [Form.delimiter])
    left
    simp [closing?, Form.delimiter, hc]
  | true =>
    have hq := takeWhile_take_eq_nil hr
    match body, hne, hd with
    | [a], _, _ =>
      by_cases ha : a = q
      · right
        simp [closing?, Form.delimiter, List.replicate, ha, hq]
      · left
        simp [closing?, Form.delimiter, List.replicate, ha]
    | [a, b], _, _ =>
      by_cases hab : a = q ∧ b = q
      · right
        simp [closing?, Form.delimiter, List.replicate, hab]
      · left
        simpa [closing?, Form.delimiter, List.replicate] using hab
    | a :: b :: c :: body, _, hd =>
      left
      simpa [closing?, Form.delimiter, List.replicate, eq_comm] using hd

theorem Spells.eq_of_quotes {body text : Text} (h : Spells form body text)
    (hq : ∀ c ∈ body, c = form.quote) : text = body := by
  induction h with
  | nil => rfl
  | plain _ _ _ ih =>
    rw [List.forall_mem_cons] at hq
    rw [ih hq.2]
  | escape hform _ _ _ =>
    have hb := hq '\\' List.mem_cons_self
    rw [hform] at hb
    cases hb

theorem Spells.bodyWithin_eq {body text : Text} (h : Spells form body text) {rest : Text}
    (hr : rest.head? ≠ some form.quote) {fuel : Nat} (hf : body.length < fuel) :
    bodyWithin form fuel (body ++ (form.delimiter ++ rest)) = some (text, rest) := by
  induction h generalizing fuel with
  | nil =>
    obtain ⟨fuel, rfl⟩ : ∃ n, fuel = n + 1 := ⟨fuel - 1, by omega⟩
    exact bodyWithin_closing (closing?_delimiter hr)
  | @plain c body text hc hd h ih =>
    rw [List.length_cons] at hf
    obtain ⟨fuel, rfl⟩ : ∃ n, fuel = n + 1 := ⟨fuel - 1, by omega⟩
    rcases closing?_body (List.cons_ne_nil c body) hd hr with hn | ⟨hs, hq⟩
    · rw [List.cons_append] at hn ⊢
      rw [bodyWithin_plain hc hn, ih (by omega)]
      rfl
    · rw [bodyWithin_closing hs, (Spells.plain hc hd h).eq_of_quotes hq]
  | @escape c letters body text hq he h ih =>
    rw [List.length_cons, List.length_append] at hf
    obtain ⟨fuel, rfl⟩ : ∃ n, fuel = n + 1 := ⟨fuel - 1, by omega⟩
    rw [List.cons_append, List.append_assoc, bodyWithin_escape hq (he _), ih (by omega)]
    rfl

theorem hexDigits_control : ∀ n < 0x80,
    ['0', '0', upperHexDigit (n / 16), upperHexDigit n].foldlM
      (fun n c => (Token.hexDigit? c).map (16 * n + ·)) 0 = some n := by
  decide

theorem hexEscape?_control {c : Char} (hc : isControl c = true) (rest : Text) :
    hexEscape? 4 ('0' :: '0' :: upperHexDigit (c.toNat / 16) :: upperHexDigit c.toNat :: rest) =
      some (c, rest) := by
  have hlt : c.toNat < 0x80 := by
    simp only [isControl, Bool.or_eq_true, decide_eq_true_eq] at hc
    rcases hc with hc | rfl
    · omega
    · decide
  have hdigits := hexDigits_control c.toNat hlt
  have hvalid : c.toNat.isValidChar := c.valid
  have hs : scalarChar? c.toNat = some c := by rw [scalarChar?, if_pos hvalid, Char.ofNat_toNat]
  simp only [hexEscape?, List.take_succ_cons, List.take_zero, List.drop_succ_cons, List.drop_zero]
  rw [hdigits]
  simp [hs]

theorem escape?_of_escaped? {multiline : Bool} {c : Char} {escape : Text}
    (h : escaped? multiline c = some escape) :
    ∃ letters, escape = '\\' :: letters ∧ ∀ rest, escape? (letters ++ rest) = some (c, rest) := by
  unfold escaped? at h
  split_ifs at h with hb ht hn _ hf hr hs hc <;> obtain rfl := Option.some.inj h
  · exact ⟨['b'], rfl, fun rest => by rw [hb]; rfl⟩
  · exact ⟨['t'], rfl, fun rest => by rw [ht]; rfl⟩
  · exact ⟨['n'], rfl, fun rest => by rw [hn]; rfl⟩
  · exact ⟨['f'], rfl, fun rest => by rw [hf]; rfl⟩
  · exact ⟨['r'], rfl, fun rest => by rw [hr]; rfl⟩
  · exact ⟨['\\'], rfl, fun rest => by rw [hs]; rfl⟩
  · exact ⟨_, rfl, hexEscape?_control hc⟩

theorem holds_of_escaped?_eq_none {c : Char} (h : escaped? form.multiline c = none) :
    form.Holds c := by
  unfold escaped? at h
  split_ifs at h with _ _ hn hm _ _ hs hc
  · exact .inl ⟨hn, hm⟩
  · right
    simp [isForbidden, hs, hc]

theorem delimiter_not_isPrefix_cons {c : Char} (hc : c ≠ form.quote) (body : Text) :
    ¬ form.delimiter <+: c :: body := by
  obtain ⟨q, multiline⟩ := form
  cases multiline <;> simp [Form.delimiter, List.replicate, List.cons_prefix_cons, Ne.symm hc]

/-- With the quotes in front of them, three quotes never stand in a row. -/
theorem quotes_not_isPrefix_writeBasic {count quotes : Nat} (hc : 3 ≤ count + quotes) (hq : quotes ≤ 2)
    (text : Text) : ¬ List.replicate count '"' <+: writeBasic true quotes text := by
  obtain ⟨count, rfl⟩ : ∃ n, count = n + 1 := ⟨count - 1, by omega⟩
  rw [List.replicate_succ]
  induction text generalizing count quotes with
  | nil => simp [writeBasic]
  | cons c text ih =>
    rw [writeBasic]
    split
    · split
      · next hlt =>
        obtain ⟨count, rfl⟩ : ∃ n, count = n + 1 := ⟨count - 1, by omega⟩
        have hi := ih (show quotes + 1 ≤ 2 by omega) count (by omega)
        rw [List.replicate_succ, ‹c = '"'›, List.cons_prefix_cons]
        exact fun h => hi h.2
      · simp [List.cons_prefix_cons]
    · next hne =>
      split
      · next he =>
        obtain ⟨letters, rfl, -⟩ := escape?_of_escaped? he
        simp [List.cons_prefix_cons]
      · rw [List.cons_prefix_cons]
        exact fun h => hne h.1.symm

theorem spells_writeBasic (multiline : Bool) {quotes : Nat} (hq : quotes ≤ 2) (text : Text) :
    Spells ⟨'"', multiline⟩ (writeBasic multiline quotes text) text := by
  induction text generalizing quotes with
  | nil => exact .nil
  | cons c text ih =>
    rw [writeBasic]
    split
    · next hc =>
      subst hc
      split
      · next hm =>
        obtain ⟨rfl, hlt⟩ := hm
        refine .plain (.inr (by decide)) ?_ (ih (by omega))
        have hn := quotes_not_isPrefix_writeBasic (show 3 ≤ 2 + (quotes + 1) by omega) (by omega) text
        simpa [Form.delimiter, List.replicate, List.cons_prefix_cons] using hn
      · exact @Spells.escape _ '"' ['"'] _ _ rfl (fun _ => rfl) (ih (by omega))
    · next hc =>
      split
      · next he =>
        obtain ⟨letters, rfl, hl⟩ := escape?_of_escaped? he
        exact .escape rfl hl (ih (by omega))
      · next he =>
        exact .plain (holds_of_escaped?_eq_none he) (delimiter_not_isPrefix_cons hc _) (ih (by omega))

theorem spells_self {text : Text} (hc : ∀ c ∈ text, form.Holds c)
    (hr : hasRun form.quote form.delimiter.length text = false) : Spells form text text := by
  induction text with
  | nil => exact .nil
  | cons c text ih =>
    rw [List.forall_mem_cons] at hc
    rw [hasRun, Bool.or_eq_false_iff] at hr
    refine .plain hc.1 ?_ (ih hc.2 hr.2)
    rw [List.prefix_iff_eq_take]
    simpa [Form.delimiter] using hr.1

theorem fits_formOf {text : Text} (h : (formOf text).quote ≠ '"') :
    (formOf text).fits text = true := by
  rw [formOf] at h ⊢
  cases hf : [Form.basic, .literal, .longBasic, .longLiteral].find? (·.fits text) with
  | some form =>
    have hs := List.find?_some hf
    exact hs
  | none =>
    rw [hf] at h
    cases hn : hasNewline text <;> simp [hn, Form.basic, Form.longBasic] at h

theorem Form.holds_of_fits {text : Text} (hq : form.quote ≠ '"') (h : form.fits text = true) :
    ∀ c ∈ text, form.Holds c := by
  intro c hc
  simp only [fits, Bool.and_eq_true, Bool.not_eq_true', Bool.or_eq_true] at h
  obtain ⟨⟨⟨hcontrol, hnewline⟩, -⟩, -⟩ := h
  by_cases hn : c = '\n'
  · subst hn
    refine .inl ⟨rfl, hnewline.resolve_right fun hno => ?_⟩
    simp [hasNewline, hc] at hno
  · right
    rw [hasControl, List.any_eq_false] at hcontrol
    have hc := hcontrol c hc
    simp only [hn, ne_eq, not_false_eq_true, decide_true, Bool.and_true, Bool.not_eq_true] at hc
    exact ⟨hc, fun h => hq h.2⟩

def bodyOf (text : Text) : Text :=
  if (formOf text).quote = '"' then writeBasic (formOf text).multiline 0 text else text

theorem spells_bodyOf (text : Text) : Spells (formOf text) (bodyOf text) text := by
  rw [bodyOf]
  split
  · next hq =>
    have hs := spells_writeBasic (formOf text).multiline (Nat.zero_le 2) text
    rwa [← hq] at hs
  · next hq =>
    have hf := fits_formOf hq
    refine spells_self (Form.holds_of_fits hq hf) ?_
    simp only [Form.fits, Bool.and_eq_true, Bool.not_eq_true'] at hf
    rw [Form.delimiter, List.length_replicate, hf.2]

theorem formOf_cases (text : Text) : formOf text = .basic ∨ formOf text = .literal ∨
    formOf text = .longBasic ∨ formOf text = .longLiteral := by
  rw [formOf]
  cases hf : [Form.basic, .literal, .longBasic, .longLiteral].find? (·.fits text) with
  | some form => simpa using List.mem_of_find?_eq_some hf
  | none => cases hasNewline text <;> simp

theorem string?_long (hf : form = .longBasic ∨ form = .longLiteral) (inner : Text) :
    string? true (form.delimiter ++ inner) =
      bodyWithin form ((dropFirstNewline inner).length + 1) (dropFirstNewline inner) := by
  rcases hf with rfl | rfl <;> rfl

theorem string?_short (hf : form = .basic ∨ form = .literal) (allowLong : Bool) {inner : Text}
    (h : ¬ [form.quote, form.quote] <+: inner) :
    string? allowLong (form.delimiter ++ inner) = bodyWithin form (inner.length + 1) inner := by
  rw [List.prefix_iff_eq_take, eq_comm] at h
  rcases hf with rfl | rfl
  · have h2 : inner.take 2 ≠ ['"', '"'] := h
    simp [string?, Form.delimiter, Form.basic, Form.longBasic, Form.longLiteral, List.replicate, h2]
  · have h2 : inner.take 2 ≠ ['\'', '\''] := h
    simp [string?, Form.delimiter, Form.basic, Form.literal, Form.longBasic, Form.longLiteral,
      List.replicate, h2]

theorem Spells.quotes_not_isPrefix {body text : Text} (h : Spells form body text)
    (hm : form.multiline = false) {rest : Text} (hr : rest.head? ≠ some form.quote) :
    ¬ [form.quote, form.quote] <+: body ++ (form.delimiter ++ rest) := by
  have hdelimiter : form.delimiter = [form.quote] := by simp [Form.delimiter, hm]
  cases h with
  | nil =>
    rw [List.nil_append, hdelimiter, List.singleton_append, List.cons_prefix_cons]
    rintro ⟨-, suffix, rfl⟩
    exact hr rfl
  | plain _ hd _ =>
    rw [hdelimiter, List.cons_prefix_cons] at hd
    rw [List.cons_append, List.cons_prefix_cons]
    exact fun h => hd ⟨h.1, List.nil_prefix⟩
  | escape hq _ _ =>
    rw [List.cons_append, List.cons_prefix_cons, hq]
    nofun

theorem newline?_cons_of_ne {c : Char} (hn : c ≠ '\n') (hr : c ≠ '\r') (rest : Text) :
    newline? (c :: rest) = none := by
  unfold newline?
  split
  · next h => exact absurd (List.cons.inj h).1 hn
  · next h => exact absurd (List.cons.inj h).1 hr
  · rfl

theorem Spells.dropFirstNewline_eq {body text : Text} (h : Spells form body text)
    (hf : form = .longBasic ∨ form = .longLiteral) (rest : Text) :
    dropFirstNewline ((if form.multiline && hasNewline text then ['\n'] else []) ++
      (body ++ (form.delimiter ++ rest))) = body ++ (form.delimiter ++ rest) := by
  have hm : form.multiline = true := by rcases hf with rfl | rfl <;> rfl
  by_cases hn : hasNewline text = true
  · rw [hm, hn]
    rfl
  · rw [hm, Bool.true_and, if_neg hn, List.nil_append, dropFirstNewline]
    have hnone : newline? (body ++ (form.delimiter ++ rest)) = none := by
      cases h with
      | nil => rcases hf with rfl | rfl <;> rfl
      | plain hc _ _ =>
        refine newline?_cons_of_ne ?_ (hc.ne_of_isForbidden (by decide) (by decide)) _
        rintro rfl
        simp [hasNewline] at hn
      | escape _ _ _ => exact newline?_cons_of_ne (by decide) (by decide) _
    rw [hnone, Option.getD_none]

theorem writeString_eq (text : Text) : writeString text = (formOf text).delimiter ++
    ((if (formOf text).multiline && hasNewline text then ['\n'] else []) ++
      (bodyOf text ++ (formOf text).delimiter)) := by
  simp only [writeString, bodyOf, List.append_assoc]

/-- A text is read back from what is written of it in front of everything but another quote. -/
theorem string?_writeString (text : Text) {rest : Text} (hd : rest.head? ≠ some '"')
    (hs : rest.head? ≠ some '\'') :
    string? true (writeString text ++ rest) = some (text, rest) := by
  have h := spells_bodyOf text
  have hshort (hf : formOf text = .basic ∨ formOf text = .literal)
      (hr : rest.head? ≠ some (formOf text).quote) :
      string? true (writeString text ++ rest) = some (text, rest) := by
    have hm : (formOf text).multiline = false := by rcases hf with hf | hf <;> rw [hf] <;> rfl
    rw [writeString_eq, hm, Bool.false_and, if_neg Bool.false_ne_true, List.nil_append,
      List.append_assoc, List.append_assoc, string?_short hf true (h.quotes_not_isPrefix hm hr)]
    exact h.bodyWithin_eq hr (by simp only [List.length_append]; omega)
  have hlong (hf : formOf text = .longBasic ∨ formOf text = .longLiteral)
      (hr : rest.head? ≠ some (formOf text).quote) :
      string? true (writeString text ++ rest) = some (text, rest) := by
    rw [writeString_eq, List.append_assoc, List.append_assoc, List.append_assoc, string?_long hf,
      h.dropFirstNewline_eq hf]
    exact h.bodyWithin_eq hr (by simp only [List.length_append]; omega)
  rcases formOf_cases text with hf | hf | hf | hf
  · exact hshort (.inl hf) (by rw [hf]; exact hd)
  · exact hshort (.inr hf) (by rw [hf]; exact hs)
  · exact hlong (.inl hf) (by rw [hf]; exact hd)
  · exact hlong (.inr hf) (by rw [hf]; exact hs)

end FieldQuery.Toml
