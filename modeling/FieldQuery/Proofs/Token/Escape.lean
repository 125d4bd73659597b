import FieldQuery.Proofs.Lexeme
import Mathlib.Data.List.Forall2
set_option autoImplicit false

/-! Escapes against their grammar. A quoted body is a row of units, each of which means one
character. Numbers take as many digits as they may, so where a unit ends can depend on the character
behind it. -/

namespace FieldQuery.Token

def digitChars : Text :=
  ['0', '1', '2', '3', '4', '5', '6', '7', '8', '9', 'a', 'b', 'c', 'd', 'e', 'f']

/-- The value of a digit in a base of at most sixteen. Letters count in both cases. -/
def digitOf? (base : Nat) (c : Char) : Option Nat := (digitChars.take base).idxOf? c.toLower

def number (base : Nat) (ds : Text) : Nat :=
  ds.foldl (fun value d => value * base + (digitOf? base d).getD 0) 0

/-- Digits in front of a text, as many as follow each other up to a limit. -/
structure Digits (base limit : Nat) (ds rest : Text) : Prop where
  isSome_of_mem : ∀ d ∈ ds, (digitOf? base d).isSome
  length_le : ds.length ≤ limit
  stops : ds.length < limit → ∀ c ∈ rest.head?, digitOf? base c = none

def controlLetters : List (Char × Char) :=
  [('a', '\u0007'), ('b', '\u0008'), ('f', '\u000c'), ('n', '\n'), ('r', '\r'), ('t', '\t'),
    ('v', '\u000b')]

/-- A part of a quoted body as it is written (`span`) and the character that it means. -/
structure BodyUnit where
  span : Text
  value : Char
  deriving DecidableEq, Repr

/-- The shape of a unit together with what can follow it. A numeric unit means the character of its
number's last byte; `x` is one only with a digit behind it. -/
inductive BodyUnit.StandsBefore : BodyUnit → Text → Prop where
  | plain {c : Char} {rest : Text} : c ≠ '\\' → StandsBefore ⟨[c], c⟩ rest
  | hexadecimal {ds rest : Text} : ds ≠ [] → Digits 16 2 ds rest →
      StandsBefore ⟨'\\' :: 'x' :: ds, Char.ofNat (number 16 ds % 256)⟩ rest
  | octal {ds rest : Text} : ds ≠ [] → Digits 8 3 ds rest →
      StandsBefore ⟨'\\' :: ds, Char.ofNat (number 8 ds % 256)⟩ rest
  | control {c value : Char} {rest : Text} : (c, value) ∈ controlLetters →
      StandsBefore ⟨['\\', c], value⟩ rest
  | other {c : Char} {rest : Text} : c ∉ controlLetters.map Prod.fst → digitOf? 8 c = none →
      (c = 'x' → ∀ d ∈ rest.head?, digitOf? 16 d = none) → StandsBefore ⟨['\\', c], c⟩ rest

/-- The units of a body, each with what the others are written as behind it. -/
inductive Segments : List BodyUnit → Text → Prop where
  | nil : Segments [] []
  | cons {unit : BodyUnit} {units : List BodyUnit} {rest : Text} : unit.StandsBefore rest →
      Segments units rest → Segments (unit :: units) (unit.span ++ rest)

/-- A character as it can be written for itself: plainly, or as the two or three digits of its
number. -/
inductive Spelled (c : Char) : Text → Prop where
  | plain : c ≠ '\\' → Spelled c [c]
  | hexadecimal {ds : Text} : ds.length = 2 → (∀ d ∈ ds, (digitOf? 16 d).isSome) →
      number 16 ds = c.toNat → Spelled c ('\\' :: 'x' :: ds)
  | octal {ds : Text} : ds.length = 3 → (∀ d ∈ ds, (digitOf? 8 d).isSome) →
      number 8 ds = c.toNat → Spelled c ('\\' :: ds)

section Digits

theorem digitOf?_eq_none_of_le {base : Nat} {c : Char} (h : 128 ≤ c.toNat) :
    digitOf? base c = none := by
  have hlower : c.toLower = c := by
    refine dif_neg fun hupper => ?_
    have hle : c.toNat ≤ 'Z'.toNat := hupper.2
    have hz : 'Z'.toNat = 90 := rfl
    omega
  have hdigits : digitChars.all (·.toNat < 128) = true := by decide
  rw [digitOf?, hlower, List.idxOf?_eq_none_iff]
  intro hm
  have hlt := of_decide_eq_true (List.all_eq_true.1 hdigits c (List.mem_of_mem_take hm))
  omega

theorem digitOf?_backslash (base : Nat) : digitOf? base '\\' = none := by
  have hdigits : '\\'.toLower ∉ digitChars := by decide
  rw [digitOf?, List.idxOf?_eq_none_iff]
  exact fun hm => hdigits (List.mem_of_mem_take hm)

theorem not_le_of_ascii {c d : Char} (h : 128 ≤ c.toNat) (hd : d.toNat < 128) : ¬ c ≤ d := by
  intro hle
  have hle' : c.toNat ≤ d.toNat := hle
  omega

theorem digit?_ext {f g : Char → Option Nat} (hf : ∀ c, 128 ≤ c.toNat → f c = none)
    (hg : ∀ c, 128 ≤ c.toNat → g c = none)
    (h : ∀ n < 128, f (Char.ofNat n) = g (Char.ofNat n)) : f = g := by
  funext c
  by_cases hc : c.toNat < 128
  · simpa using h c.toNat hc
  · rw [hf c (by omega), hg c (by omega)]

theorem octalDigit?_eq : octalDigit? = digitOf? 8 := by
  refine digit?_ext (fun c h => ?_) (fun c => digitOf?_eq_none_of_le) (by decide +kernel)
  exact if_neg fun hc => not_le_of_ascii h (by decide) hc.2

theorem hexDigit?_eq : hexDigit? = digitOf? 16 := by
  refine digit?_ext (fun c h => ?_) (fun c => digitOf?_eq_none_of_le) (by decide +kernel)
  rw [hexDigit?, if_neg fun hc => not_le_of_ascii h (by decide) hc.2,
    if_neg fun hc => not_le_of_ascii h (by decide) hc.2,
    if_neg fun hc => not_le_of_ascii h (by decide) hc.2]

variable {base limit : Nat} {d : Char} {ds rest : Text}

theorem Digits.of_length_eq (h : ∀ d ∈ ds, (digitOf? base d).isSome) (hl : ds.length = limit) :
    Digits base limit ds rest :=
  ⟨h, Nat.le_of_eq hl, fun hlt => absurd hl (Nat.ne_of_lt hlt)⟩

theorem digits_nil_iff :
    Digits base (limit + 1) [] rest ↔ ∀ c ∈ rest.head?, digitOf? base c = none :=
  ⟨fun h => h.stops (Nat.succ_pos _), fun h => ⟨nofun, Nat.zero_le _, fun _ => h⟩⟩

theorem digits_cons_iff :
    Digits base (limit + 1) (d :: ds) rest ↔
      (∃ v, digitOf? base d = some v) ∧ Digits base limit ds rest := by
  rw [← Option.isSome_iff_exists]
  constructor
  · intro h
    obtain ⟨hd, hds⟩ := List.forall_mem_cons.1 h.isSome_of_mem
    exact ⟨hd, hds, Nat.le_of_succ_le_succ h.length_le, fun hlt => h.stops (Nat.succ_lt_succ hlt)⟩
  · rintro ⟨hd, h⟩
    exact ⟨List.forall_mem_cons.2 ⟨hd, h.isSome_of_mem⟩, Nat.succ_le_succ h.length_le,
      fun hlt => h.stops (Nat.lt_of_succ_lt_succ hlt)⟩

theorem Digits.digits_eq (h : Digits base limit ds rest) (value : Nat) :
    digits base (digitOf? base) limit value (ds ++ rest) =
      (ds.foldl (fun value d => value * base + (digitOf? base d).getD 0) value, rest) := by
  induction ds generalizing limit value with
  | nil =>
    cases limit with
    | zero => rfl
    | succ limit =>
      cases rest with
      | nil => rfl
      | cons c rest =>
        have hc := digits_nil_iff.1 h c rfl
        simp [digits, hc]
  | cons d ds ih =>
    cases limit with
    | zero => exact absurd h.length_le (by simp)
    | succ limit =>
      obtain ⟨⟨v, hv⟩, hds⟩ := digits_cons_iff.1 h
      rw [List.cons_append, digits, hv]
      simp only [List.foldl_cons, hv, Option.getD_some]
      exact ih hds _

theorem exists_digits (base limit : Nat) (text : Text) :
    ∃ ds rest, text = ds ++ rest ∧ Digits base limit ds rest := by
  induction limit generalizing text with
  | zero => exact ⟨[], text, rfl, .of_length_eq nofun rfl⟩
  | succ limit ih =>
    cases text with
    | nil => exact ⟨[], [], rfl, digits_nil_iff.2 nofun⟩
    | cons c text =>
      cases hc : digitOf? base c with
      | none => exact ⟨[], c :: text, rfl, digits_nil_iff.2 (by simpa using hc)⟩
      | some v =>
        obtain ⟨ds, rest, rfl, h⟩ := ih text
        exact ⟨c :: ds, rest, rfl, digits_cons_iff.2 ⟨⟨v, hc⟩, h⟩⟩

theorem Digits.quotedBody (h : Digits base limit ds rest) (hb : Lexeme.QuotedBody (ds ++ rest)) :
    Lexeme.QuotedBody rest := by
  have hd := h.isSome_of_mem
  clear h
  induction ds with
  | nil => exact hb
  | cons d ds ih =>
    obtain ⟨hsome, hds⟩ := List.forall_mem_cons.1 hd
    generalize htext : d :: ds ++ rest = body at hb
    cases hb with
    | nil => cases htext
    | plain _ _ hb =>
      obtain rfl := (List.cons.inj htext).2
      exact ih hb hds
    | escaped =>
      obtain rfl := (List.cons.inj htext).1
      simp [digitOf?_backslash] at hsome

theorem exists_digits_taken (base : Nat) (digit? : Char → Option Nat) (limit value : Nat)
    (text : Text) :
    ∃ taken, text = taken ++ (digits base digit? limit value text).2 ∧
      ∀ d ∈ taken, (digit? d).isSome := by
  induction limit generalizing value text with
  | zero => exact ⟨[], rfl, nofun⟩
  | succ limit ih =>
    cases text with
    | nil => exact ⟨[], rfl, nofun⟩
    | cons c text =>
      rw [digits]
      split
      · next d hd =>
        obtain ⟨taken, htext, hall⟩ := ih (value * base + d) text
        exact ⟨c :: taken, congrArg (c :: ·) htext, List.forall_mem_cons.2 ⟨by simp [hd], hall⟩⟩
      · exact ⟨[], rfl, nofun⟩

end Digits

section Escape

variable {c d value : Char} {ds rest : Text}

theorem namedEscape?_eq_some_iff :
    namedEscape? c = some value ↔ (c, value) ∈ controlLetters := by
  constructor
  · intro h
    unfold namedEscape? at h
    split at h
    all_goals first | (cases h; decide) | cases h
  · intro h
    have hall : controlLetters.all (fun p => namedEscape? p.1 = some p.2) = true := by decide
    exact of_decide_eq_true (List.all_eq_true.1 hall _ h)

theorem namedEscape?_eq_none (h : c ∉ controlLetters.map Prod.fst) : namedEscape? c = none := by
  cases hc : namedEscape? c with
  | none => rfl
  | some value => exact absurd (List.mem_map_of_mem (namedEscape?_eq_some_iff.1 hc)) h

theorem namedEscape?_digit {v : Nat} (h : digitOf? 8 c = some v) : namedEscape? c = none := by
  refine namedEscape?_eq_none fun hm => ?_
  have hall : (controlLetters.map Prod.fst).all (fun c => digitOf? 8 c = none) = true := by decide
  rw [of_decide_eq_true (List.all_eq_true.1 hall c hm)] at h
  cases h

theorem escape_control (h : (c, value) ∈ controlLetters) : escape c rest = (value, rest) := by
  simp only [escape, namedEscape?_eq_some_iff.2 h]

theorem escape_octal (h : Digits 8 3 (d :: ds) rest) :
    escape d (ds ++ rest) = (Char.ofNat (number 8 (d :: ds) % 256), rest) := by
  obtain ⟨⟨v, hv⟩, hds⟩ := digits_cons_iff.1 h
  simp only [escape, namedEscape?_digit hv, octalDigit?_eq, hv, hds.digits_eq, byteChar, number,
    List.foldl_cons, Nat.zero_mul, Nat.zero_add, Option.getD_some]

theorem escape_hexadecimal (h : Digits 16 2 (d :: ds) rest) :
    escape 'x' (d :: ds ++ rest) = (Char.ofNat (number 16 (d :: ds) % 256), rest) := by
  obtain ⟨⟨v, hv⟩, hds⟩ := digits_cons_iff.1 h
  have hx : octalDigit? 'x' = none := by decide
  have hn : namedEscape? 'x' = none := by decide
  simp only [escape, hn, hx, hexDigit?_eq, if_true, List.cons_append, hv, hds.digits_eq, byteChar,
    number, List.foldl_cons, Nat.zero_mul, Nat.zero_add, Option.getD_some]

theorem escape_other (hc : c ∉ controlLetters.map Prod.fst) (ho : digitOf? 8 c = none)
    (hx : c = 'x' → ∀ d ∈ rest.head?, digitOf? 16 d = none) : escape c rest = (c, rest) := by
  simp only [escape, namedEscape?_eq_none hc, octalDigit?_eq, ho, hexDigit?_eq]
  split
  · next hcx =>
    cases rest with
    | nil => rfl
    | cons d rest => simp [hx hcx d rfl]
  · rfl

theorem exists_escape_taken (c : Char) (rest : Text) :
    ∃ taken, rest = taken ++ (escape c rest).2 ∧ '\\' ∉ taken := by
  have hnot : ∀ (base : Nat) {taken : Text}, (∀ d ∈ taken, (digitOf? base d).isSome) →
      '\\' ∉ taken := by
    intro base taken hall hmem
    have hsome := hall _ hmem
    rw [digitOf?_backslash] at hsome
    cases hsome
  unfold escape
  split
  · exact ⟨[], rfl, List.not_mem_nil⟩
  · split
    · next d _ =>
      obtain ⟨taken, hrest, hall⟩ := exists_digits_taken 8 octalDigit? 2 d rest
      exact ⟨taken, hrest, hnot 8 (octalDigit?_eq ▸ hall)⟩
    · split
      · split
        · exact ⟨[], rfl, List.not_mem_nil⟩
        · next h hs =>
          split
          · next d hd =>
            obtain ⟨taken, hrest, hall⟩ := exists_digits_taken 16 hexDigit? 1 d hs
            refine ⟨h :: taken, congrArg (h :: ·) hrest, hnot 16 ?_⟩
            rw [← hexDigit?_eq]
            exact List.forall_mem_cons.2 ⟨by simp [hd], hall⟩
          · exact ⟨[], rfl, List.not_mem_nil⟩
      · exact ⟨[], rfl, List.not_mem_nil⟩

theorem length_escape_le (c : Char) (rest : Text) : (escape c rest).2.length ≤ rest.length := by
  obtain ⟨taken, hrest, -⟩ := exists_escape_taken c rest
  have hlength := congrArg List.length hrest
  rw [List.length_append] at hlength
  omega

theorem unescapeWithin_eq {fuel : Nat} {raw : Text} (h : raw.length ≤ fuel) :
    unescapeWithin fuel raw = unescape raw := by
  suffices ∀ fuel more raw, raw.length ≤ fuel → raw.length ≤ more →
      unescapeWithin fuel raw = unescapeWithin more raw from this _ _ raw h (Nat.le_refl _)
  intro fuel
  induction fuel with
  | zero =>
    intro more raw h _
    rw [List.length_eq_zero_iff.1 (Nat.le_zero.1 h)]
    cases more <;> rfl
  | succ fuel ih =>
    intro more raw h hm
    cases raw with
    | nil => cases more <;> rfl
    | cons c cs =>
      cases more with
      | zero => simp at hm
      | succ more =>
        rw [List.length_cons, Nat.succ_le_succ_iff] at h hm
        cases cs with
        | nil => simp [unescapeWithin, ih more [] h hm]
        | cons e rest =>
          have hle := length_escape_le e rest
          rw [List.length_cons] at h hm
          simp only [unescapeWithin, ih more (e :: rest) h hm,
            ih more (escape e rest).2 (by omega) (by omega)]

theorem unescape_plain (hc : c ≠ '\\') : unescape (c :: rest) = c :: unescape rest := by
  simp only [unescape, List.length_cons, unescapeWithin, if_neg hc]

theorem unescape_escape {tail : Text} (h : escape c tail = (value, rest)) :
    unescape ('\\' :: c :: tail) = value :: unescape rest := by
  have hle := length_escape_le c tail
  rw [h] at hle
  rw [← unescapeWithin_eq (Nat.le_succ_of_le hle)]
  simp only [unescape, List.length_cons, unescapeWithin, if_true, h]

end Escape

theorem BodyUnit.StandsBefore.unescape_append {unit : BodyUnit} {rest : Text}
    (h : unit.StandsBefore rest) : unescape (unit.span ++ rest) = unit.value :: unescape rest := by
  cases h with
  | plain hc => exact unescape_plain hc
  | hexadecimal hne hds =>
    obtain ⟨d, ds, rfl⟩ := List.exists_cons_of_ne_nil hne
    exact unescape_escape (escape_hexadecimal hds)
  | octal hne hds =>
    obtain ⟨d, ds, rfl⟩ := List.exists_cons_of_ne_nil hne
    exact unescape_escape (escape_octal hds)
  | control hm => exact unescape_escape (escape_control hm)
  | other hc ho hx => exact unescape_escape (escape_other hc ho hx)

theorem Segments.unescape_eq {units : List BodyUnit} {body : Text} (h : Segments units body) :
    unescape body = units.map BodyUnit.value := by
  induction h with
  | nil => rfl
  | cons hunit _ ih => rw [hunit.unescape_append, ih, List.map_cons]

theorem exists_escaped_unit (c : Char) {tail : Text} (hb : Lexeme.QuotedBody tail) :
    ∃ (unit : BodyUnit) (rest : Text), '\\' :: c :: tail = unit.span ++ rest ∧
      unit.StandsBefore rest ∧ Lexeme.QuotedBody rest := by
  by_cases hcontrol : c ∈ controlLetters.map Prod.fst
  · obtain ⟨⟨_, value⟩, hm, rfl⟩ := List.mem_map.1 hcontrol
    exact ⟨⟨_, value⟩, tail, rfl, .control hm, hb⟩
  · cases ho : digitOf? 8 c with
    | some v =>
      obtain ⟨ds, rest, rfl, hds⟩ := exists_digits 8 2 tail
      exact ⟨⟨_, _⟩, rest, rfl, .octal (List.cons_ne_nil c ds) (digits_cons_iff.2 ⟨⟨v, ho⟩, hds⟩),
        hds.quotedBody hb⟩
    | none =>
      obtain ⟨ds, rest, rfl, hds⟩ := exists_digits 16 2 tail
      by_cases hx : c = 'x' ∧ ds ≠ []
      · obtain ⟨rfl, hne⟩ := hx
        exact ⟨⟨_, _⟩, rest, rfl, .hexadecimal hne hds, hds.quotedBody hb⟩
      · refine ⟨⟨_, _⟩, ds ++ rest, rfl, .other hcontrol ho fun hcx => ?_, hb⟩
        -- Without a digit behind it an `x` means itself.
        obtain rfl : ds = [] := Classical.not_not.1 fun hne => hx ⟨hcx, hne⟩
        exact digits_nil_iff.1 hds

theorem exists_segments {body : Text} (h : Lexeme.QuotedBody body) :
    ∃ units, Segments units body := by
  induction hn : body.length using Nat.strongRecOn generalizing body with
  | ind n ih =>
    subst hn
    cases h with
    | nil => exact ⟨[], .nil⟩
    | @plain c tail _ hc hb =>
      obtain ⟨units, hu⟩ := ih tail.length (Nat.lt_succ_self _) hb rfl
      exact ⟨⟨[c], c⟩ :: units, .cons (.plain hc) hu⟩
    | @escaped c tail hb =>
      obtain ⟨unit, rest, hspan, hunit, hrest⟩ := exists_escaped_unit c hb
      have hpos : 0 < unit.span.length := by cases hunit <;> simp
      have hlt : rest.length < ('\\' :: c :: tail).length := by
        rw [hspan, List.length_append]
        omega
      obtain ⟨units, hu⟩ := ih rest.length hlt hrest rfl
      exact ⟨unit :: units, hspan ▸ .cons hunit hu⟩

theorem Spelled.standsBefore {c : Char} {span : Text} (h : Spelled c span) (hc : c.toNat < 256)
    (rest : Text) : BodyUnit.StandsBefore ⟨span, c⟩ rest := by
  have hbyte : ∀ {n : Nat}, n = c.toNat → Char.ofNat (n % 256) = c := by
    rintro _ rfl
    rw [Nat.mod_eq_of_lt hc, Char.ofNat_toNat]
  have hne : ∀ {ds : Text} {n : Nat}, ds.length = n + 1 → ds ≠ [] := by
    rintro _ _ hl rfl
    cases hl
  cases h with
  | plain hplain => exact .plain hplain
  | hexadecimal hl hds hnum =>
    rw [← hbyte hnum]
    exact .hexadecimal (hne hl) (.of_length_eq hds hl)
  | octal hl hds hnum =>
    rw [← hbyte hnum]
    exact .octal (hne hl) (.of_length_eq hds hl)

theorem exists_segments_of_spelled {text : Text} {spans : List Text}
    (h : List.Forall₂ Spelled text spans) (ht : ∀ c ∈ text, c.toNat < 256) :
    ∃ units, Segments units spans.flatten ∧ units.map BodyUnit.value = text := by
  induction h with
  | nil => exact ⟨[], .nil, rfl⟩
  | @cons c span _ spans hspelled _ ih =>
    obtain ⟨hc, ht⟩ := List.forall_mem_cons.1 ht
    obtain ⟨units, hu, rfl⟩ := ih ht
    exact ⟨⟨span, c⟩ :: units, .cons (hspelled.standsBefore hc _) hu, rfl⟩

theorem exists_spelled {c : Char} (h : c.toNat < 256) :
    (∃ d e, Spelled c ['\\', 'x', d, e]) ∧ ∃ d e f, Spelled c ['\\', d, e, f] := by
  have hhex : ∀ n < 16, digitOf? 16 (Nat.digitChar n) = some n := by decide
  have hoctal : ∀ n < 8, digitOf? 8 (Nat.digitChar n) = some n := by decide
  constructor
  · have hhigh := hhex (c.toNat / 16) (by omega)
    have hlow := hhex (c.toNat % 16) (by omega)
    refine ⟨Nat.digitChar (c.toNat / 16), Nat.digitChar (c.toNat % 16),
      .hexadecimal rfl (by simp [hhigh, hlow]) ?_⟩
    simp only [number, List.foldl_cons, List.foldl_nil, hhigh, hlow, Option.getD_some]
    omega
  · have hhigh := hoctal (c.toNat / 64) (by omega)
    have hmiddle := hoctal (c.toNat / 8 % 8) (by omega)
    have hlow := hoctal (c.toNat % 8) (by omega)
    refine ⟨Nat.digitChar (c.toNat / 64), Nat.digitChar (c.toNat / 8 % 8),
      Nat.digitChar (c.toNat % 8), .octal rfl (by simp [hhigh, hmiddle, hlow]) ?_⟩
    simp only [number, List.foldl_cons, List.foldl_nil, hhigh, hmiddle, hlow, Option.getD_some]
    omega

/-- Decoding a body is reading its units, and every body has units. So a text below U+0100 is
decoded from any spelling of it that has no plain backslash, and has one with any of its characters
as a number in either base. -/
theorem unescape_segments :
    (∀ units body, Segments units body → unescape body = units.map BodyUnit.value) ∧
    (∀ body, Lexeme.QuotedBody body → ∃ units, Segments units body) ∧
    (∀ text spans, List.Forall₂ Spelled text spans → (∀ c ∈ text, c.toNat < 256) →
      unescape spans.flatten = text) ∧
    ∀ c : Char, c.toNat < 256 →
      (∃ d e, Spelled c ['\\', 'x', d, e]) ∧ ∃ d e f, Spelled c ['\\', d, e, f] := by
  refine ⟨fun units body h => h.unescape_eq, fun body => exists_segments, ?_,
    fun c => exists_spelled⟩
  intro text spans h ht
  obtain ⟨units, hu, rfl⟩ := exists_segments_of_spelled h ht
  exact hu.unescape_eq

theorem unescape_segments_mixed :
    (Segments [⟨"\\x4".toList, '\x04'⟩, ⟨['g'], 'g'⟩, ⟨"\\xE9".toList, 'é'⟩, ⟨['1'], '1'⟩,
        ⟨"\\501".toList, 'A'⟩, ⟨"\\x".toList, 'x'⟩, ⟨"\\\\".toList, '\\'⟩, ⟨"\\n".toList, '\n'⟩]
        "\\x4g\\xE91\\501\\x\\\\\\n".toList ∧
      unescape "\\x4g\\xE91\\501\\x\\\\\\n".toList = "\x04gé1Ax\\\n".toList) ∧
    List.Forall₂ Spelled ['\\', 'n'] ["\\134".toList, ['n']] ∧
      unescape "\\134n".toList = ['\\', 'n'] := by
  have hsome : ∀ {base : Nat} {ds : Text}, ds.all (fun d => (digitOf? base d).isSome) = true →
      ∀ d ∈ ds, (digitOf? base d).isSome := List.all_eq_true.1
  have hg : Digits 16 2 ['4'] "g\\xE91\\501\\x\\\\\\n".toList := by
    refine ⟨hsome (by decide), by decide, fun _ c hc => ?_⟩
    obtain rfl : 'g' = c := Option.some.inj hc
    decide
  have he : Digits 16 2 ['E', '9'] "1\\501\\x\\\\\\n".toList :=
    .of_length_eq (hsome (by decide)) rfl
  have ho : Digits 8 3 ['5', '0', '1'] "\\x\\\\\\n".toList := .of_length_eq (hsome (by decide)) rfl
  have hx : ∀ d ∈ "\\\\\\n".toList.head?, digitOf? 16 d = none := by
    intro d hd
    obtain rfl : '\\' = d := Option.some.inj hd
    exact digitOf?_backslash 16
  have h : Segments [⟨"\\x4".toList, '\x04'⟩, ⟨['g'], 'g'⟩, ⟨"\\xE9".toList, 'é'⟩,
      ⟨['1'], '1'⟩, ⟨"\\501".toList, 'A'⟩, ⟨"\\x".toList, 'x'⟩, ⟨"\\\\".toList, '\\'⟩,
      ⟨"\\n".toList, '\n'⟩] "\\x4g\\xE91\\501\\x\\\\\\n".toList :=
    .cons (.hexadecimal (by decide) hg) <| .cons (.plain (by decide)) <|
    .cons (.hexadecimal (by decide) he) <| .cons (.plain (by decide)) <|
    .cons (.octal (by decide) ho) <| .cons (.other (by decide) (by decide) fun _ => hx) <|
    .cons (.other (by decide) (by decide) nofun) <| .cons (.control (by decide)) .nil
  have hspelled : List.Forall₂ Spelled ['\\', 'n'] ["\\134".toList, ['n']] :=
    .cons (.octal rfl (hsome (by decide)) (by decide)) (.cons (.plain (by decide)) .nil)
  exact ⟨⟨h, unescape_segments.1 _ _ h⟩, hspelled,
    unescape_segments.2.2.1 _ _ hspelled (by simp)⟩

end FieldQuery.Token
