import FieldQuery.Text.Quoted
import FieldQuery.Proofs.Token.Escape
set_option autoImplicit false

namespace FieldQuery.Text

theorem digitOf?_digitChar : ∀ d < 16, Token.digitOf? 16 (Nat.digitChar d) = some d := by
  decide

theorem number_append_singleton (base : Nat) (ds : Text) (d : Char) :
    Token.number base (ds ++ [d]) =
      Token.number base ds * base + (Token.digitOf? base d).getD 0 := by
  rw [Token.number, List.foldl_append]
  rfl

theorem number_toDigits (n : Nat) : Token.number 16 (Nat.toDigits 16 n) = n := by
  induction n using Nat.strongRecOn with
  | ind n ih =>
    rw [Nat.toDigits_eq_if (by decide)]
    split
    · next hn => simp [Token.number, digitOf?_digitChar n hn]
    · next hn =>
      rw [number_append_singleton, ih (n / 16) (by omega),
        digitOf?_digitChar _ (Nat.mod_lt n (by decide)), Option.getD_some]
      omega

theorem exists_digit_of_mem_toDigits {n : Nat} {c : Char} (h : c ∈ Nat.toDigits 16 n) :
    ∃ d < 16, c = Nat.digitChar d := by
  induction n using Nat.strongRecOn with
  | ind n ih =>
    rw [Nat.toDigits_eq_if (by decide)] at h
    split at h
    · next hn => exact ⟨n, hn, List.mem_singleton.1 h⟩
    · next hn =>
      rcases List.mem_append.1 h with h | h
      · exact ih (n / 16) (by omega) h
      · exact ⟨n % 16, Nat.mod_lt n (by decide), List.mem_singleton.1 h⟩

def unquotedChar? : Text → Option (Char × Text)
  | [] => none
  | '"' :: _ => none
  | '\\' :: '0' :: rest => some ('\x00', rest)
  | '\\' :: 't' :: rest => some ('\t', rest)
  | '\\' :: 'r' :: rest => some ('\r', rest)
  | '\\' :: 'n' :: rest => some ('\n', rest)
  | '\\' :: 'u' :: '\x7b' :: rest =>
    some (Char.ofNat (Token.number 16 (rest.takeWhile (· ≠ '\x7d'))),
      (rest.dropWhile (· ≠ '\x7d')).drop 1)
  | '\\' :: c :: rest => some (c, rest)
  | c :: rest => some (c, rest)

theorem unquotedChar?_codePointEscape (c : Char) (rest : Text) :
    unquotedChar? (codePointEscape c ++ rest) = some (c, rest) := by
  have hdigits : ∀ d ∈ Nat.toDigits 16 c.toNat, decide (d ≠ '\x7d') = true := by
    intro d hd
    obtain ⟨k, hk, rfl⟩ := exists_digit_of_mem_toDigits hd
    have hne : ∀ k < 16, Nat.digitChar k ≠ '\x7d' := by decide
    exact decide_eq_true (hne k hk)
  have htext : codePointEscape c ++ rest =
      '\\' :: 'u' :: '\x7b' :: (Nat.toDigits 16 c.toNat ++ '\x7d' :: rest) := by
    simp [codePointEscape]
  rw [htext, unquotedChar?, List.takeWhile_append_of_pos hdigits,
    List.dropWhile_append_of_pos hdigits, List.takeWhile_cons_of_neg (by decide),
    List.dropWhile_cons_of_neg (by decide), List.append_nil, number_toDigits, Char.ofNat_toNat]
  rfl

theorem unquotedChar?_quotedChar (c : Char) (rest : Text) :
    unquotedChar? (quotedChar c ++ rest) = some (c, rest) := by
  unfold quotedChar
  split_ifs with h0 ht hr hn hq hb hp
  · rw [h0]; rfl
  · rw [ht]; rfl
  · rw [hr]; rfl
  · rw [hn]; rfl
  · rw [hq]; rfl
  · rw [hb]; rfl
  · exact unquotedChar?_codePointEscape c rest
  · simp [unquotedChar?, hb]

theorem isPrintable_control {c : Char} (h : c.toNat < 0x20) : Unicode.isPrintable c = false := by
  rw [Unicode.isPrintable, if_pos (by omega)]
  simp [h]

theorem not_control_codePointEscape (c : Char) : ∀ d ∈ codePointEscape c, 0x20 ≤ d.toNat := by
  have hascii : ∀ k < 16, 0x20 ≤ (Nat.digitChar k).toNat := by decide
  refine List.forall_mem_append.2 ⟨List.forall_mem_append.2 ⟨by simp, fun d hd => ?_⟩, by simp⟩
  obtain ⟨k, hk, rfl⟩ := exists_digit_of_mem_toDigits hd
  exact hascii k hk

theorem not_control_quotedChar (c : Char) : ∀ d ∈ quotedChar c, 0x20 ≤ d.toNat := by
  unfold quotedChar
  split_ifs with h0 ht hr hn hq hb hp
  · simp
  · simp
  · simp
  · simp
  · simp
  · simp
  · exact not_control_codePointEscape c
  · refine List.forall_mem_singleton.2 (Nat.le_of_not_lt fun hlt => hp ?_)
    rw [isPrintable_control hlt, Bool.not_false, Bool.or_true]

theorem not_control_quoted (text : Text) : ∀ d ∈ text.quoted, 0x20 ≤ d.toNat := by
  refine List.forall_mem_append.2 ⟨List.forall_mem_append.2 ⟨by simp, fun d hd => ?_⟩, by simp⟩
  obtain ⟨c, -, hc⟩ := List.mem_flatMap.1 hd
  exact not_control_quotedChar c d hc

theorem not_mem_quoted_of_control {c : Char} (h : c.toNat < 0x20) (text : Text) :
    c ∉ text.quoted :=
  fun hc => Nat.not_le_of_lt h (not_control_quoted text c hc)

theorem quotedBody_append_inj {text other rest rest' : Text}
    (h : text.flatMap quotedChar ++ '"' :: rest = other.flatMap quotedChar ++ '"' :: rest') :
    text = other ∧ rest = rest' := by
  have hread := congrArg unquotedChar? h
  induction text generalizing other with
  | nil =>
    cases other with
    | nil => exact ⟨rfl, (List.cons.inj h).2⟩
    | cons d other =>
      rw [List.flatMap_cons, List.append_assoc, unquotedChar?_quotedChar] at hread
      cases hread
  | cons c text ih =>
    rw [List.flatMap_cons, List.append_assoc, unquotedChar?_quotedChar] at hread
    cases other with
    | nil => cases hread
    | cons d other =>
      rw [List.flatMap_cons, List.append_assoc, unquotedChar?_quotedChar] at hread
      obtain ⟨rfl, hbody⟩ := Prod.mk.inj (Option.some.inj hread)
      obtain ⟨rfl, hrest⟩ := ih hbody (congrArg unquotedChar? hbody)
      exact ⟨rfl, hrest⟩

theorem quoted_append_inj {text other rest rest' : Text}
    (h : text.quoted ++ rest = other.quoted ++ rest') : text = other ∧ rest = rest' := by
  simp only [quoted, List.append_assoc, List.cons_append, List.nil_append] at h
  exact quotedBody_append_inj (List.cons.inj h).2

end FieldQuery.Text
