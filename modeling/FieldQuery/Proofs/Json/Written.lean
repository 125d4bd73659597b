import FieldQuery.Proofs.Json.Nesting
import Mathlib.Data.List.DropRight
import Mathlib.Data.List.Forall2
set_option autoImplicit false

namespace FieldQuery.Json

theorem hexValue?_control : ∀ n < 0x20,
    hexValue? ['0', '0', hexDigit (n / 16), hexDigit n] = some n := by
  decide

theorem stringBody_control {c : Char} (hc : c.toNat < 0x20) (rest : Text) :
    stringBody none (['\\', 'u', '0', '0', hexDigit (c.toNat / 16), hexDigit c.toNat] ++ rest) =
      (stringBody none rest).map (consTo c) := by
  have hv := hexValue?_control c.toNat hc
  have hhigh : isHighSurrogate c.toNat = false := by
    simp [isHighSurrogate]
    omega
  have hlow : isLowSurrogate c.toNat = false := by
    simp [isLowSurrogate]
    omega
  simp [stringBody, hv, hhigh, hlow]

/-- The characters whose escape is a single letter or sign. -/
def shortlyEscaped : List Char := ['"', '\\', '\x08', '\x0c', '\n', '\r', '\t']

theorem escapeChar_of_not_mem {c : Char} (h : c ∉ shortlyEscaped) :
    escapeChar c = if c.toNat < 0x20 then
      ['\\', 'u', '0', '0', hexDigit (c.toNat / 16), hexDigit c.toNat] else [c] := by
  simp only [shortlyEscaped, List.mem_cons, List.not_mem_nil, or_false, not_or] at h
  simp [escapeChar, h]

theorem stringBody_escapeChar (c : Char) (rest : Text) :
    stringBody none (escapeChar c ++ rest) = (stringBody none rest).map (consTo c) := by
  by_cases hshort : c ∈ shortlyEscaped
  · simp only [shortlyEscaped, List.mem_cons, List.not_mem_nil, or_false] at hshort
    rcases hshort with rfl | rfl | rfl | rfl | rfl | rfl | rfl <;>
      simp [escapeChar, stringBody, simpleEscape?]
  rw [escapeChar_of_not_mem hshort]
  simp only [shortlyEscaped, List.mem_cons, not_or] at hshort
  obtain ⟨hq, hb, -⟩ := hshort
  by_cases hc : c.toNat < 0x20
  · rw [if_pos hc]
    exact stringBody_control hc rest
  · simp [stringBody, hq, hb, hc]

theorem stringBody_escaped (text rest : Text) :
    stringBody none (text.flatMap escapeChar ++ '"' :: rest) = some (text, rest) := by
  induction text with
  | nil => simp [stringBody]
  | cons c text ih =>
    rw [List.flatMap_cons, List.append_assoc, stringBody_escapeChar, ih]
    rfl

theorem valueWithin_dropWhile (fuel levels : Nat) (text : Text) :
    valueWithin fuel levels (text.dropWhile isBlank) = valueWithin fuel levels text := by
  cases fuel with
  | zero => rfl
  | succ fuel => simp only [valueWithin, List.dropWhile_idempotent]

theorem itemsWithin_dropWhile (fuel levels : Nat) (text : Text) :
    itemsWithin fuel levels (text.dropWhile isBlank) = itemsWithin fuel levels text := by
  cases fuel with
  | zero => rfl
  | succ fuel => simp only [itemsWithin, valueWithin_dropWhile]

theorem fieldsWithin_dropWhile (fuel levels : Nat) (text : Text) :
    fieldsWithin fuel levels (text.dropWhile isBlank) = fieldsWithin fuel levels text := by
  cases fuel with
  | zero => rfl
  | succ fuel => simp only [fieldsWithin, List.dropWhile_idempotent]

theorem dropWhile_blanks {blanks : Text} (hb : ∀ c ∈ blanks, isBlank c = true) {c : Char}
    (hc : isBlank c = false) (rest : Text) :
    (blanks ++ c :: rest).dropWhile isBlank = c :: rest := by
  rw [List.dropWhile_append_of_pos hb, List.dropWhile_cons_of_neg (by simp [hc])]

theorem dropWhile_quote {blanks : Text} (hb : ∀ c ∈ blanks, isBlank c = true) (text rest : Text) :
    (blanks ++ quote text ++ rest).dropWhile isBlank =
      '"' :: (text.flatMap escapeChar ++ '"' :: rest) := by
  simp only [quote, List.append_assoc, List.cons_append, List.nil_append]
  exact dropWhile_blanks hb (by decide) _

section Steps

variable {fuel levels : Nat} {text rest after : Text}

theorem valueWithin_string {s : Text} (h : text.dropWhile isBlank = '"' :: rest)
    (hs : stringBody none rest = some (s, after)) :
    valueWithin (fuel + 1) levels text = some (.string s, after) := by
  simp [valueWithin, h, hs]

theorem valueWithin_array_nil (h : text.dropWhile isBlank = '[' :: rest)
    (hr : rest.dropWhile isBlank = ']' :: after) :
    valueWithin (fuel + 1) (levels + 1) text = some (.array [], after) := by
  simp [valueWithin, h, opened?, hr]

theorem valueWithin_closing (h : text.dropWhile isBlank = ']' :: rest) :
    valueWithin fuel levels text = none := by
  cases fuel with
  | zero => rfl
  | succ fuel => simp [valueWithin, h, number?, integerPart?, digits?, Decimal.isDigit]

theorem itemsWithin_closing (h : text.dropWhile isBlank = ']' :: rest) :
    itemsWithin fuel levels text = none := by
  cases fuel with
  | zero => rfl
  | succ fuel => simp [itemsWithin, valueWithin_closing h]

theorem valueWithin_array {items : List Json} (h : text.dropWhile isBlank = '[' :: rest)
    (hr : itemsWithin fuel levels rest = some (items, after)) :
    valueWithin (fuel + 1) (levels + 1) text = some (.array items, after) := by
  simp only [valueWithin, h, opened?, Option.bind_eq_bind, Option.bind_some]
  split
  · next he =>
    rw [itemsWithin_closing he] at hr
    cases hr
  · rw [itemsWithin_dropWhile, hr]
    rfl

theorem itemsWithin_last {item : Json} (hv : valueWithin fuel levels text = some (item, rest))
    (hr : rest.dropWhile isBlank = ']' :: after) :
    itemsWithin (fuel + 1) levels text = some ([item], after) := by
  simp [itemsWithin, hv, hr]

theorem itemsWithin_comma {item : Json} (hv : valueWithin fuel levels text = some (item, rest))
    (hr : rest.dropWhile isBlank = ',' :: after) :
    itemsWithin (fuel + 1) levels text = (itemsWithin fuel levels after).map (consTo item) := by
  simp [itemsWithin, hv, hr]

theorem valueWithin_object_nil (h : text.dropWhile isBlank = '\x7b' :: rest)
    (hr : rest.dropWhile isBlank = '\x7d' :: after) :
    valueWithin (fuel + 1) (levels + 1) text = some (.object [], after) := by
  simp [valueWithin, h, opened?, hr]

theorem fieldsWithin_closing (h : text.dropWhile isBlank = '\x7d' :: rest) :
    fieldsWithin fuel levels text = none := by
  cases fuel with
  | zero => rfl
  | succ fuel => simp [fieldsWithin, h]

theorem valueWithin_object {fields : List (Text × Json)}
    (h : text.dropWhile isBlank = '\x7b' :: rest)
    (hr : fieldsWithin fuel levels rest = some (fields, after)) :
    valueWithin (fuel + 1) (levels + 1) text = some (.object fields, after) := by
  simp only [valueWithin, h, opened?, Option.bind_eq_bind, Option.bind_some]
  split
  · next he =>
    rw [fieldsWithin_closing he] at hr
    cases hr
  · rw [fieldsWithin_dropWhile, hr]
    rfl

variable {behind value : Text} {field : Text × Json}

theorem fieldsWithin_last (h : text.dropWhile isBlank = '"' :: rest)
    (hk : stringBody none rest = some (field.1, behind))
    (hc : behind.dropWhile isBlank = ':' :: value)
    (hv : valueWithin fuel levels value = some (field.2, after)) {done : Text}
    (hr : after.dropWhile isBlank = '\x7d' :: done) :
    fieldsWithin (fuel + 1) levels text = some ([field], done) := by
  simp [fieldsWithin, h, hk, hc, hv, hr]

theorem fieldsWithin_comma (h : text.dropWhile isBlank = '"' :: rest)
    (hk : stringBody none rest = some (field.1, behind))
    (hc : behind.dropWhile isBlank = ':' :: value)
    (hv : valueWithin fuel levels value = some (field.2, after)) {more : Text}
    (hr : after.dropWhile isBlank = ',' :: more) :
    fieldsWithin (fuel + 1) levels text = (fieldsWithin fuel levels more).map (consTo field) := by
  simp [fieldsWithin, h, hk, hc, hv, hr]

end Steps

/-- A text that is read as a document whatever follows it. -/
def ReadsAs (levels : Nat) (text : Text) (document : Json) : Prop :=
  ∀ (fuel : Nat) (rest : Text), 2 * text.length ≤ fuel →
    valueWithin fuel levels (text ++ rest) = some (document, rest)

def ReadsAsField (levels : Nat) (text : Text) (field : Text × Json) : Prop :=
  ∃ blanks value : Text, (∀ c ∈ blanks, isBlank c = true) ∧
    text = blanks ++ quote field.1 ++ ':' :: value ∧ ReadsAs levels value field.2

variable {levels : Nat}

theorem ReadsAs.indent {text blanks : Text} {document : Json} (h : ReadsAs levels text document)
    (hb : ∀ c ∈ blanks, isBlank c = true) :
    ReadsAs levels (blanks ++ text) document := by
  intro fuel rest hf
  rw [List.length_append] at hf
  rw [← valueWithin_dropWhile, List.append_assoc, List.dropWhile_append_of_pos hb,
    valueWithin_dropWhile]
  exact h fuel rest (by omega)

theorem ReadsAsField.indent {text blanks : Text} {field : Text × Json}
    (h : ReadsAsField levels text field) (hb : ∀ c ∈ blanks, isBlank c = true) :
    ReadsAsField levels (blanks ++ text) field := by
  obtain ⟨blanks', value, hb', rfl, hv⟩ := h
  refine ⟨blanks ++ blanks', value, ?_, by simp, hv⟩
  intro c hc
  exact (List.mem_append.1 hc).elim (hb c) (hb' c)

/-- A reader of elements with commas between them, up to a bracket. `R` says which text spells which
element. -/
structure ReadsList {α : Type} (reader : Nat → Text → Option (List α × Text)) (closing : Char)
    (R : Text → α → Prop) : Prop where
  last : ∀ {fuel : Nat} {part after done : Text} {a : α}, R part a → 2 * part.length ≤ fuel →
    after.dropWhile isBlank = closing :: done →
    reader (fuel + 1) (part ++ after) = some ([a], done)
  comma : ∀ {fuel : Nat} {part more : Text} {a : α}, R part a → 2 * part.length ≤ fuel →
    reader (fuel + 1) (part ++ ',' :: more) = (reader fuel more).map (consTo a)

theorem readsList_items : ReadsList (itemsWithin · levels) ']' (ReadsAs levels) where
  last hp hf hr := itemsWithin_last (hp _ _ hf) hr
  comma hp hf := itemsWithin_comma (hp _ _ hf) rfl

theorem readsList_fields : ReadsList (fieldsWithin · levels) '\x7d' (ReadsAsField levels) where
  last := by
    rintro fuel _ after done field ⟨blanks, value, hb, rfl, hv⟩ hf hr
    simp only [List.length_append, List.length_cons] at hf
    rw [List.append_assoc]
    exact fieldsWithin_last (dropWhile_quote hb field.1 _) (stringBody_escaped _ _) rfl
      (hv fuel _ (by omega)) hr
  comma := by
    rintro fuel _ more field ⟨blanks, value, hb, rfl, hv⟩ hf
    simp only [List.length_append, List.length_cons] at hf
    rw [List.append_assoc]
    exact fieldsWithin_comma (dropWhile_quote hb field.1 _) (stringBody_escaped _ _) rfl
      (hv fuel _ (by omega)) rfl

theorem ReadsList.intercalate {α : Type} {reader : Nat → Text → Option (List α × Text)}
    {closing : Char} {R : Text → α → Prop} (hr : ReadsList reader closing R)
    (hclosing : isBlank closing = false) {parts : List Text} {as : List α}
    (h : List.Forall₂ R parts as) (hne : parts ≠ []) {blanks : Text}
    (hb : ∀ c ∈ blanks, isBlank c = true) (rest : Text) {fuel : Nat}
    (hf : 2 * ([','].intercalate parts).length < fuel) :
    reader fuel ([','].intercalate parts ++ (blanks ++ closing :: rest)) = some (as, rest) := by
  induction h generalizing fuel with
  | nil => exact absurd rfl hne
  | @cons part a parts as hp hps ih =>
    obtain ⟨fuel, rfl⟩ : ∃ n, fuel = n + 1 := ⟨fuel - 1, by omega⟩
    cases hps with
    | nil =>
      rw [List.intercalate_singleton] at hf ⊢
      exact hr.last hp (by omega) (dropWhile_blanks hb hclosing rest)
    | cons hq hqs =>
      rw [List.intercalate_cons_cons] at hf ⊢
      simp only [List.length_append, List.length_singleton] at hf
      have hi := ih (by simp) (show _ < fuel by omega)
      rw [List.append_assoc, List.append_assoc, List.singleton_append, hr.comma hp (by omega), hi]
      rfl

theorem readsAs_array {parts : List Text} {items : List Json}
    (h : List.Forall₂ (ReadsAs levels) parts items) {blanks : Text}
    (hb : ∀ c ∈ blanks, isBlank c = true) :
    ReadsAs (levels + 1) ('[' :: ([','].intercalate parts ++ (blanks ++ [']'])))
      (.array items) := by
  intro fuel rest hf
  simp only [List.length_cons, List.length_append] at hf
  obtain ⟨fuel, rfl⟩ : ∃ n, fuel = n + 1 := ⟨fuel - 1, by omega⟩
  simp only [List.cons_append, List.append_assoc, List.nil_append]
  by_cases hne : parts = []
  · subst hne
    cases h
    exact valueWithin_array_nil rfl (dropWhile_blanks hb (by decide) rest)
  · exact valueWithin_array rfl
      (readsList_items.intercalate (by decide) h hne hb rest (by omega))

theorem readsAs_object {parts : List Text} {fields : List (Text × Json)}
    (h : List.Forall₂ (ReadsAsField levels) parts fields) {blanks : Text}
    (hb : ∀ c ∈ blanks, isBlank c = true) :
    ReadsAs (levels + 1) ('\x7b' :: ([','].intercalate parts ++ (blanks ++ ['\x7d'])))
      (.object fields) := by
  intro fuel rest hf
  simp only [List.length_cons, List.length_append] at hf
  obtain ⟨fuel, rfl⟩ : ∃ n, fuel = n + 1 := ⟨fuel - 1, by omega⟩
  simp only [List.cons_append, List.append_assoc, List.nil_append]
  by_cases hne : parts = []
  · subst hne
    cases h
    exact valueWithin_object_nil rfl (dropWhile_blanks hb (by decide) rest)
  · exact valueWithin_object rfl
      (readsList_fields.intercalate (by decide) h hne hb rest (by omega))

theorem readsAs_quote (text : Text) : ReadsAs levels (quote text) (.string text) := by
  intro fuel rest hf
  simp only [quote, List.length_append, List.length_singleton] at hf
  obtain ⟨fuel, rfl⟩ : ∃ n, fuel = n + 1 := ⟨fuel - 1, by omega⟩
  exact valueWithin_string (dropWhile_quote (List.forall_mem_nil _) text rest)
    (stringBody_escaped text rest)

def keywords : List (Text × Json) :=
  [("null".toList, .null), ("true".toList, .bool true), ("false".toList, .bool false)]

theorem readsAs_keyword {keyword : Text × Json} (h : keyword ∈ keywords) :
    ReadsAs levels keyword.1 keyword.2 := by
  intro fuel rest hf
  simp only [keywords, List.mem_cons, List.not_mem_nil, or_false] at h
  have hpos : 0 < keyword.1.length := by
    rcases h with rfl | rfl | rfl <;> decide
  obtain ⟨fuel, rfl⟩ : ∃ n, fuel = n + 1 := ⟨fuel - 1, by omega⟩
  rcases h with rfl | rfl | rfl <;> simp [valueWithin, isBlank]

mutual

/-- A document without numbers. The end of a number is seen only in what follows it, so that no
number is read alike in front of every text. -/
def Worded : Json → Prop
  | .null => True
  | .bool _ => True
  | .number _ => False
  | .string _ => True
  | .array items => WordedItems items
  | .object fields => WordedFields fields

def WordedItems : List Json → Prop
  | [] => True
  | item :: items => item.Worded ∧ WordedItems items

def WordedFields : List (Text × Json) → Prop
  | [] => True
  | (_, value) :: fields => value.Worded ∧ WordedFields fields

end

mutual

theorem readsAs_compact : (document : Json) → ∀ {levels : Nat}, document.Worded →
    document.nesting ≤ levels → ReadsAs levels document.compact document
  | .null, _, _, _ => readsAs_keyword (.head _)
  | .bool true, _, _, _ => readsAs_keyword (.tail _ (.head _))
  | .bool false, _, _, _ => readsAs_keyword (.tail _ (.tail _ (.head _)))
  | .string text, _, _, _ => readsAs_quote text
  | .array items, levels + 1, hw, hn => by
    have hi := readsAs_compactItems items hw (Nat.le_of_succ_le_succ hn)
    exact readsAs_array hi (List.forall_mem_nil _)
  | .object fields, levels + 1, hw, hn => by
    have hf := readsAs_compactFields fields hw (Nat.le_of_succ_le_succ hn)
    exact readsAs_object hf (List.forall_mem_nil _)

theorem readsAs_compactItems : (items : List Json) → ∀ {levels : Nat}, WordedItems items →
    nestingOfItems items ≤ levels → List.Forall₂ (ReadsAs levels) (compactItems items) items
  | [], _, _, _ => .nil
  | item :: items, _, hw, hn =>
    .cons (readsAs_compact item hw.1 (Nat.max_le.1 hn).1)
      (readsAs_compactItems items hw.2 (Nat.max_le.1 hn).2)

theorem readsAs_compactFields : (fields : List (Text × Json)) → ∀ {levels : Nat},
    WordedFields fields → nestingOfFields fields ≤ levels →
    List.Forall₂ (ReadsAsField levels) (compactFields fields) fields
  | [], _, _, _ => .nil
  | (_, value) :: fields, _, hw, hn =>
    .cons ⟨[], value.compact, by simp, by simp, readsAs_compact value hw.1 (Nat.max_le.1 hn).1⟩
      (readsAs_compactFields fields hw.2 (Nat.max_le.1 hn).2)

end

theorem isBlank_lineStart (level : Nat) : ∀ c ∈ lineStart level, isBlank c = true := by
  intro c hc
  rcases List.mem_cons.1 hc with rfl | hc
  · rfl
  · rw [(List.mem_replicate.1 hc).2]
    rfl

theorem forall₂_lineStart {α : Type} {R : Text → α → Prop}
    (hR : ∀ {part a blanks}, R part a → (∀ c ∈ blanks, isBlank c = true) → R (blanks ++ part) a)
    (level : Nat) {parts : List Text} {as : List α} (h : List.Forall₂ R parts as) :
    List.Forall₂ R (parts.map (lineStart level ++ ·)) as :=
  List.forall₂_map_left_iff.2 (h.imp fun _ _ hr => hR hr (isBlank_lineStart level))

theorem readsAs_block_array {parts : List Text} {items : List Json} (level : Nat)
    (h : List.Forall₂ (ReadsAs levels) parts items) :
    ReadsAs (levels + 1) (block level '[' ']' parts) (.array items) := by
  cases h with
  | nil => exact readsAs_array .nil (List.forall_mem_nil _)
  | cons hp hps =>
    have hi := forall₂_lineStart ReadsAs.indent (level + 1) (.cons hp hps)
    simpa [block] using readsAs_array hi (isBlank_lineStart level)

theorem readsAs_block_object {parts : List Text} {fields : List (Text × Json)} (level : Nat)
    (h : List.Forall₂ (ReadsAsField levels) parts fields) :
    ReadsAs (levels + 1) (block level '\x7b' '\x7d' parts) (.object fields) := by
  cases h with
  | nil => exact readsAs_object .nil (List.forall_mem_nil _)
  | cons hp hps =>
    have hf := forall₂_lineStart ReadsAsField.indent (level + 1) (.cons hp hps)
    simpa [block] using readsAs_object hf (isBlank_lineStart level)

mutual

theorem readsAs_prettyAt : (document : Json) → ∀ (level : Nat) {levels : Nat}, document.Worded →
    document.nesting ≤ levels → ReadsAs levels (document.prettyAt level) document
  | .null, _, _, _, _ => readsAs_keyword (.head _)
  | .bool true, _, _, _, _ => readsAs_keyword (.tail _ (.head _))
  | .bool false, _, _, _, _ => readsAs_keyword (.tail _ (.tail _ (.head _)))
  | .string text, _, _, _, _ => readsAs_quote text
  | .array items, level, _ + 1, hw, hn =>
    readsAs_block_array level
      (readsAs_prettyItems items (level + 1) hw (Nat.le_of_succ_le_succ hn))
  | .object fields, level, _ + 1, hw, hn =>
    readsAs_block_object level
      (readsAs_prettyFields fields (level + 1) hw (Nat.le_of_succ_le_succ hn))

theorem readsAs_prettyItems : (items : List Json) → ∀ (level : Nat) {levels : Nat},
    WordedItems items → nestingOfItems items ≤ levels →
    List.Forall₂ (ReadsAs levels) (prettyItems level items) items
  | [], _, _, _, _ => .nil
  | item :: items, level, _, hw, hn =>
    .cons (readsAs_prettyAt item level hw.1 (Nat.max_le.1 hn).1)
      (readsAs_prettyItems items level hw.2 (Nat.max_le.1 hn).2)

theorem readsAs_prettyFields : (fields : List (Text × Json)) → ∀ (level : Nat) {levels : Nat},
    WordedFields fields → nestingOfFields fields ≤ levels →
    List.Forall₂ (ReadsAsField levels) (prettyFields level fields) fields
  | [], _, _, _, _ => .nil
  | (_, value) :: fields, level, _, hw, hn =>
    have hv := readsAs_prettyAt value level hw.1 (Nat.max_le.1 hn).1
    have hb : ∀ c ∈ [' '], isBlank c = true := by simp [isBlank]
    .cons ⟨[], ' ' :: value.prettyAt level, by simp, by simp, hv.indent hb⟩
      (readsAs_prettyFields fields level hw.2 (Nat.max_le.1 hn).2)

end

theorem readsAs_write (isPretty : Bool) {document : Json} (hw : document.Worded)
    (hn : document.nesting ≤ levels) : ReadsAs levels (document.write isPretty) document := by
  cases isPretty with
  | true => exact readsAs_prettyAt document 0 hw hn
  | false => exact readsAs_compact document hw hn

theorem read?_write (isPretty : Bool) {document : Json} (hw : document.Worded) (rest : Text) :
    read? (document.write isPretty ++ rest) =
      if document.nesting ≤ maxNesting then some (document, rest) else none := by
  have hf : 2 * (document.write isPretty).length ≤
      2 * (document.write isPretty ++ rest).length + 2 := by
    rw [List.length_append]
    omega
  split
  · next hn => exact readsAs_write isPretty hw hn _ rest hf
  · next hn =>
    cases hr : read? (document.write isPretty ++ rest) with
    | none => rfl
    | some found =>
      -- With more levels the same would be found, and that is the document.
      obtain ⟨hle, hmore⟩ := valueWithin_levels _ (Nat.le_of_not_le hn) _ _ _ hr
      rw [readsAs_write isPretty hw (Nat.le_refl _) _ rest hf] at hmore
      cases hmore
      exact absurd hle hn

end FieldQuery.Json
