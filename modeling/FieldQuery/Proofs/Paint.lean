import FieldQuery.Paint
import Mathlib.Data.List.Basic
import Mathlib.Data.List.TakeWhile
set_option autoImplicit false

namespace FieldQuery

def isSgrParameter (c : Char) : Bool := c.isDigit || c = ';'

namespace Text

def sequenceLength : Text → Nat
  | '\x1b' :: '[' :: rest =>
    let parameters := rest.takeWhile isSgrParameter
    if rest[parameters.length]? = some 'm' then parameters.length + 3 else 0
  | _ => 0

/-- The text without its escape sequences and without so many characters at its front. -/
def uncolouredBehind : Nat → Text → Text
  | _, [] => []
  | skipped + 1, _ :: rest => uncolouredBehind skipped rest
  | 0, c :: rest =>
    match sequenceLength (c :: rest) with
    | 0 => c :: uncolouredBehind 0 rest
    | length + 1 => uncolouredBehind length rest

def uncoloured (text : Text) : Text := uncolouredBehind 0 text

theorem uncolouredBehind_eq (skipped : Nat) (text : Text) :
    uncolouredBehind skipped text = uncoloured (text.drop skipped) := by
  induction text generalizing skipped with
  | nil => cases skipped <;> rfl
  | cons c rest ih =>
    cases skipped with
    | zero => rfl
    | succ skipped => exact ih skipped

theorem uncoloured_cons_of_ne {c : Char} (h : c ≠ '\x1b') (rest : Text) :
    uncoloured (c :: rest) = c :: rest.uncoloured := by
  have hlength : sequenceLength (c :: rest) = 0 := by
    unfold sequenceLength
    split
    · next heq => exact absurd (List.cons.inj heq).1 h
    · rfl
  rw [uncoloured, uncolouredBehind, hlength]
  rfl

/-- What is seen of a text on a terminal, whatever follows the text. -/
def Shows (text seen : Text) : Prop :=
  ∀ rest : Text, (text ++ rest).uncoloured = seen ++ rest.uncoloured

namespace Shows

variable {text seen : Text}

theorem uncoloured_eq (h : Shows text seen) : text.uncoloured = seen := by
  have hnil := h []
  rw [List.append_nil] at hnil
  exact hnil.trans (List.append_nil seen)

theorem append {front back seenFront seenBack : Text} (hf : Shows front seenFront)
    (hb : Shows back seenBack) : Shows (front ++ back) (seenFront ++ seenBack) := by
  intro rest
  rw [List.append_assoc, hf, hb, List.append_assoc]

theorem self (h : '\x1b' ∉ text) : Shows text text := by
  intro rest
  induction text with
  | nil => rfl
  | cons c text ih =>
    obtain ⟨hc, htext⟩ := not_or.1 (mt List.mem_cons.2 h)
    rw [List.cons_append, uncoloured_cons_of_ne (Ne.symm hc), ih htext, List.cons_append]

end Shows

/-- A text is seen as another one, or as something shorter where part of that is lost. -/
def ShowsUnless (lost : Prop) (text other : Text) : Prop :=
  ∃ seen : Text, text.Shows seen ∧ (lost → seen.length < other.length) ∧ (¬ lost → seen = other)

namespace ShowsUnless

variable {lost : Prop} {text other : Text}

theorem self (h : '\x1b' ∉ text) : ShowsUnless False text text :=
  ⟨text, .self h, False.elim, fun _ => rfl⟩

theorem of_iff {gone : Prop} (h : ShowsUnless lost text other) (hi : gone ↔ lost) :
    ShowsUnless gone text other := by
  rwa [propext hi]

theorem append {lostBack : Prop} {front back otherBack : Text}
    (hf : ShowsUnless lost front other) (hb : ShowsUnless lostBack back otherBack) :
    ShowsUnless (lost ∨ lostBack) (front ++ back) (other ++ otherBack) := by
  obtain ⟨seen, hshows, hlost, hkept⟩ := hf
  obtain ⟨seenBack, hshowsBack, hlostBack, hkeptBack⟩ := hb
  have hle : seen.length ≤ other.length := by
    by_cases h : lost
    · exact Nat.le_of_lt (hlost h)
    · rw [hkept h]
  have hleBack : seenBack.length ≤ otherBack.length := by
    by_cases h : lostBack
    · exact Nat.le_of_lt (hlostBack h)
    · rw [hkeptBack h]
  refine ⟨seen ++ seenBack, hshows.append hshowsBack, fun h => ?_, fun h => ?_⟩
  · rw [List.length_append, List.length_append]
    rcases h with h | h
    · exact Nat.add_lt_add_of_lt_of_le (hlost h) hleBack
    · exact Nat.add_lt_add_of_le_of_lt hle (hlostBack h)
  · rw [hkept (h ∘ .inl), hkeptBack (h ∘ .inr)]

theorem flatMap {α : Type} {xs : List α} {P : α → Prop} {f g : α → Text}
    (h : ∀ x ∈ xs, ShowsUnless (P x) (f x) (g x)) :
    ShowsUnless (∃ x ∈ xs, P x) (xs.flatMap f) (xs.flatMap g) := by
  induction xs with
  | nil => exact (self List.not_mem_nil).of_iff (by simp)
  | cons x xs ih =>
    obtain ⟨hx, hxs⟩ := List.forall_mem_cons.1 h
    rw [List.flatMap_cons, List.flatMap_cons]
    exact (hx.append (ih hxs)).of_iff (List.exists_mem_cons_iff P x xs)

theorem uncoloured_eq_iff (h : ShowsUnless lost text other) :
    text.uncoloured = other ↔ ¬ lost := by
  obtain ⟨seen, hshows, hlost, hkept⟩ := h
  rw [hshows.uncoloured_eq]
  exact ⟨fun heq h => absurd (congrArg List.length heq) (Nat.ne_of_lt (hlost h)), hkept⟩

end ShowsUnless

end Text

theorem sequenceLength_sgr {parameters : Text} (h : parameters.all isSgrParameter = true)
    (rest : Text) : (sgr parameters ++ rest).sequenceLength = parameters.length + 3 := by
  have hparameters : (parameters ++ 'm' :: rest).takeWhile isSgrParameter = parameters := by
    rw [List.takeWhile_append_of_pos (List.all_eq_true.1 h),
      List.takeWhile_cons_of_neg (by decide), List.append_nil]
  have htext : sgr parameters ++ rest = '\x1b' :: '[' :: (parameters ++ 'm' :: rest) := by
    simp [sgr]
  rw [htext]
  simp [Text.sequenceLength, hparameters]

theorem shows_sgr {parameters : Text} (h : parameters.all isSgrParameter = true) :
    (sgr parameters).Shows [] := by
  intro rest
  have hlength := sequenceLength_sgr h rest
  have htext : sgr parameters ++ rest = '\x1b' :: ('[' :: (parameters ++ 'm' :: rest)) := by
    simp [sgr]
  have hdrop : ('[' :: (parameters ++ 'm' :: rest)).drop (parameters.length + 2) = rest := by
    rw [List.drop_succ_cons, List.drop_length_add_append]
    rfl
  rw [htext] at hlength ⊢
  rw [Text.uncoloured, Text.uncolouredBehind, hlength]
  exact (Text.uncolouredBehind_eq _ _).trans (congrArg Text.uncoloured hdrop)

theorem Style.codes_induction {P : Text → Prop}
    (hs : ∀ parameters : Text, parameters.all isSgrParameter = true → P (sgr parameters))
    (ha : ∀ front back : Text, P front → P back → P (front ++ back)) (style : Style) :
    P style.codes := by
  cases style with
  | dim => exact hs _ rfl
  | success => exact hs _ rfl
  | warning => exact hs _ rfl
  | error => exact ha _ _ (hs _ rfl) (hs _ rfl)
  | keyword => exact ha _ _ (hs _ rfl) (hs _ rfl)
  | value => exact hs _ rfl

theorem Style.shows_codes (style : Style) : style.codes.Shows [] :=
  style.codes_induction (P := (Text.Shows · [])) (fun _ => shows_sgr) fun _ _ => Text.Shows.append

theorem shows_resetCode : resetCode.Shows [] := shows_sgr rfl

end FieldQuery
