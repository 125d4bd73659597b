import FieldQuery.Proofs.Toml.String
import FieldQuery.Toml.Document
set_option autoImplicit false

namespace FieldQuery.Toml

def BareKey (word : Text) : Prop := word ≠ [] ∧ ∀ c ∈ word, isBareKeyChar c = true

instance (word : Text) : Decidable (BareKey word) :=
  @instDecidableAnd _ _ _ (List.decidableBAll (isBareKeyChar · = true) word)

theorem ne_of_isBareKeyChar {c d : Char} (hc : isBareKeyChar c = true)
    (hd : isBareKeyChar d = false) : c ≠ d := by
  rintro rfl
  rw [hc] at hd
  cases hd

theorem BareKey.exists_eq_cons {word : Text} (hw : BareKey word) :
    ∃ c tail, word = c :: tail ∧ isBareKeyChar c = true := by
  obtain ⟨c, tail, rfl⟩ := List.exists_cons_of_ne_nil hw.1
  exact ⟨c, tail, rfl, hw.2 c List.mem_cons_self⟩

theorem BareKey.skipBlanks_append {word : Text} (hw : BareKey word) (rest : Text) :
    skipBlanks (word ++ rest) = word ++ rest := by
  obtain ⟨c, tail, rfl, hc⟩ := hw.exists_eq_cons
  have hspace : c ≠ ' ' := ne_of_isBareKeyChar hc (by decide)
  have htab : c ≠ '\t' := ne_of_isBareKeyChar hc (by decide)
  exact List.dropWhile_cons_of_neg (by simp [isLineBlank, hspace, htab])

theorem keyPart?_word {word rest : Text} (hw : BareKey word)
    (hr : ∀ c ∈ rest.head?, isBareKeyChar c = false) :
    keyPart? (word ++ rest) = some (word, rest) := by
  have htake : rest.takeWhile isBareKeyChar = [] := by
    cases rest with
    | nil => rfl
    | cons c rest => rw [List.takeWhile_cons_of_neg (by simp [hr c rfl])]
  have hdrop : rest.dropWhile isBareKeyChar = rest := by
    cases rest with
    | nil => rfl
    | cons c rest => rw [List.dropWhile_cons_of_neg (by simp [hr c rfl])]
  rw [keyPart?, List.takeWhile_append_of_pos hw.2, htake, List.append_nil,
    List.dropWhile_append_of_pos hw.2, hdrop]
  obtain ⟨c, word, rfl⟩ := List.exists_cons_of_ne_nil hw.1
  rfl

theorem key?_word {word rest : Text} (hw : BareKey word)
    (hr : ∀ c ∈ rest.head?, isBareKeyChar c = false) (hdot : (skipBlanks rest).head? ≠ some '.') :
    key? (word ++ rest) = some (([], word), skipBlanks rest) := by
  have hk : keyWithin ((word ++ rest).length + 1) (word ++ rest) =
      some (([], word), skipBlanks rest) := by
    rw [keyWithin, keyPart?_word hw hr]
    simp only [Option.bind_eq_bind, Option.bind_some]
    split
    · next h => simp [h] at hdot
    · rfl
  rw [key?, hk]
  rfl

theorem exists_writeString_eq_cons (text : Text) :
    ∃ q tail, writeString text = q :: tail ∧ (q = '"' ∨ q = '\'') := by
  rw [writeString_eq]
  rcases formOf_cases text with hf | hf | hf | hf <;> rw [hf]
  · exact ⟨'"', _, rfl, .inl rfl⟩
  · exact ⟨'\'', _, rfl, .inr rfl⟩
  · exact ⟨'"', _, rfl, .inl rfl⟩
  · exact ⟨'\'', _, rfl, .inr rfl⟩

theorem value?_writeString (text rest : Text) :
    value? (writeString text ++ '\n' :: rest) = some (.string text, '\n' :: rest) := by
  have hs : string? true (writeString text ++ '\n' :: rest) = some (text, '\n' :: rest) :=
    string?_writeString text (by simp) (by simp)
  obtain ⟨q, tail, hq, hquote⟩ := exists_writeString_eq_cons text
  rw [hq, List.cons_append] at hs ⊢
  rcases hquote with rfl | rfl <;> simp [value?, valueWithin, hs]

theorem skipBlanks_cons_of_not_blank {c : Char} (hc : isLineBlank c = false) (rest : Text) :
    skipBlanks (c :: rest) = c :: rest :=
  List.dropWhile_cons_of_neg (by simp [hc])

theorem skipBlanks_writeString (text rest : Text) :
    skipBlanks (writeString text ++ rest) = writeString text ++ rest := by
  obtain ⟨q, tail, hq, hquote⟩ := exists_writeString_eq_cons text
  rw [hq, List.cons_append]
  exact skipBlanks_cons_of_not_blank (by rcases hquote with rfl | rfl <;> decide) _

namespace Reading

variable {r r' : Reading} {word rest : Text}

theorem line_comment (r : Reading) {comment : Text} (hc : ∀ c ∈ comment, isForbidden c = false)
    (rest : Text) : r.line ('#' :: (comment ++ '\n' :: rest)) = some (r, rest) := by
  have hdrop : (comment ++ '\n' :: rest).dropWhile (fun c => !isForbidden c) = '\n' :: rest := by
    rw [List.dropWhile_append_of_pos (by simpa using hc)]
    rfl
  have hend : lineEnd? ('#' :: (comment ++ '\n' :: rest)) = some rest := by
    rw [lineEnd?, skipBlanks_cons_of_not_blank (by decide), skipComment?, hdrop]
    rfl
  rw [line, skipBlanks_cons_of_not_blank (by decide)]
  simp [hend]

theorem line_header (hw : BareKey word) (hs : r.start ⟨[], word, false⟩ = some r') (rest : Text) :
    r.line ('[' :: (word ++ ']' :: '\n' :: rest)) = some (r', rest) := by
  have hk : key? (word ++ ']' :: '\n' :: rest) = some (([], word), ']' :: '\n' :: rest) :=
    key?_word hw (by simp; decide) nofun
  have hheader : header? (word ++ ']' :: '\n' :: rest) =
      some (⟨[], word, false⟩, '\n' :: rest) := by
    unfold header?
    split
    · next h =>
      obtain ⟨c, tail, rfl, hc⟩ := hw.exists_eq_cons
      exact absurd (List.cons.inj h).1 (ne_of_isBareKeyChar hc (by decide))
    · rw [hw.skipBlanks_append, hk]
      rfl
  have hend : lineEnd? ('\n' :: rest) = some rest := rfl
  rw [line, skipBlanks_cons_of_not_blank (by decide)]
  simp [hheader, hend, hs]

theorem line_entry {text : Text} {value : Value} (hw : BareKey word)
    (hk : r.entries.get? word = none)
    (hb : skipBlanks (text ++ '\n' :: rest) = text ++ '\n' :: rest)
    (hv : value? (text ++ '\n' :: rest) = some (value, '\n' :: rest)) :
    r.line (word ++ ' ' :: '=' :: ' ' :: (text ++ '\n' :: rest)) =
      some ({ r with entries := r.entries.set word value }, rest) := by
  have hkey : key? (word ++ ' ' :: '=' :: ' ' :: (text ++ '\n' :: rest)) =
      some (([], word), '=' :: ' ' :: (text ++ '\n' :: rest)) :=
    key?_word hw (by simp; decide) nofun
  have hblank : skipBlanks (' ' :: (text ++ '\n' :: rest)) = text ++ '\n' :: rest := hb
  have hend : lineEnd? ('\n' :: rest) = some rest := rfl
  have hdefine : define [] word value .header r.entries = some (r.entries.set word value) := by
    simp [define, modifyAt, hk]
  rw [line, hw.skipBlanks_append]
  obtain ⟨c, tail, rfl, hc⟩ := hw.exists_eq_cons
  have hcomment : c ≠ '#' := ne_of_isBareKeyChar hc (by decide)
  have hnewline : newline? (c :: (tail ++ ' ' :: '=' :: ' ' :: (text ++ '\n' :: rest))) = none :=
    newline?_cons_of_ne (ne_of_isBareKeyChar hc (by decide)) (ne_of_isBareKeyChar hc (by decide)) _
  rw [List.cons_append] at hkey ⊢
  split
  · next h => exact absurd (List.cons.inj h).1 (ne_of_isBareKeyChar hc (by decide))
  · next h => cases h
  · next h =>
    obtain ⟨rfl, rfl⟩ := List.cons.inj h
    simp [hcomment, hnewline, hkey, expect?, hblank, hv, hend, hdefine]

/-- Some lines lead from one state of the reading to another one, whatever follows them. -/
def Leads (r : Reading) (lines : Text) (r' : Reading) : Prop :=
  ∃ count ≤ lines.length, ∀ (fuel : Nat) (rest : Text),
    linesWithin (count + fuel) r (lines ++ rest) = linesWithin fuel r' rest

namespace Leads

theorem refl (r : Reading) : Leads r [] r :=
  ⟨0, Nat.zero_le _, fun fuel rest => by rw [Nat.zero_add, List.nil_append]⟩

theorem of_line {text : Text} (hne : text ≠ [])
    (h : ∀ rest, r.line (text ++ rest) = some (r', rest)) : Leads r text r' := by
  refine ⟨1, List.length_pos_iff.2 hne, fun fuel rest => ?_⟩
  obtain ⟨c, text, rfl⟩ := List.exists_cons_of_ne_nil hne
  have hl : linesWithin (fuel + 1) r (c :: text ++ rest) =
      (r.line (c :: text ++ rest)).bind fun read => linesWithin fuel read.1 read.2 := rfl
  rw [Nat.add_comm, hl, h, Option.bind_some]

theorem append {r'' : Reading} {front back : Text} (hf : Leads r front r') (hb : Leads r' back r'') :
    Leads r (front ++ back) r'' := by
  obtain ⟨m, hm, hf⟩ := hf
  obtain ⟨n, hn, hb⟩ := hb
  refine ⟨m + n, by rw [List.length_append]; omega, fun fuel rest => ?_⟩
  rw [Nat.add_assoc, List.append_assoc, hf, hb]

theorem empty (r : Reading) : Leads r ['\n'] r := of_line (by simp) fun _ => rfl

theorem comment (r : Reading) {comment : Text} (hc : ∀ c ∈ comment, isForbidden c = false) :
    Leads r ('#' :: (comment ++ ['\n'])) r := by
  refine of_line (by simp) fun rest => ?_
  rw [List.cons_append, List.append_assoc]
  exact line_comment r hc rest

theorem header (hw : BareKey word) (hs : r.start ⟨[], word, false⟩ = some r') :
    Leads r ('[' :: (word ++ [']', '\n'])) r' := by
  refine of_line (by simp) fun rest => ?_
  rw [List.cons_append, List.append_assoc]
  exact line_header hw hs rest

theorem entry {text : Text} {value : Value} (hw : BareKey word)
    (hk : r.entries.get? word = none)
    (hb : ∀ rest, skipBlanks (text ++ rest) = text ++ rest)
    (hv : ∀ rest, value? (text ++ '\n' :: rest) = some (value, '\n' :: rest)) :
    Leads r (word ++ ' ' :: '=' :: ' ' :: (text ++ ['\n']))
      { r with entries := r.entries.set word value } := by
  refine of_line (by simp) fun rest => ?_
  have hl := line_entry hw hk (hb _) (hv rest)
  simpa using hl

end Leads

theorem linesWithin_nil (fuel : Nat) (r : Reading) : linesWithin fuel r [] = some r := by
  cases fuel <;> rfl

end Reading

theorem document?_of_leads {text : Text} {r : Reading}
    (h : Reading.Leads ⟨[], none, []⟩ text r) (hb : text.head? ≠ some '\ufeff') :
    document? text = r.close := by
  obtain ⟨count, hc, h⟩ := h
  obtain ⟨fuel, hf⟩ : ∃ fuel, text.length = count + fuel := ⟨text.length - count, by omega⟩
  have hl := h fuel []
  rw [List.append_nil, Reading.linesWithin_nil] at hl
  simp [document?, hb, hf, hl]

end FieldQuery.Toml
