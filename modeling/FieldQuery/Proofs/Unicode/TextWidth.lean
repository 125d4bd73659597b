import FieldQuery.Unicode.TextWidth
import FieldQuery.Proofs.Lexeme
import FieldQuery.Proofs.Paint
set_option autoImplicit false

/-! The cells of a text. A character may take back a cell that characters behind it have added, and
never more, so that no text takes fewer than none. An escape sequence takes a cell for each of its
characters and parts the text in front of it from the text behind it. -/

namespace FieldQuery.Unicode

/-- The cells that what stands behind a character has added and the character may take back. -/
def Neighbour.reserve : Neighbour → Int
  | .ligature .khmerLetter => 1
  | .ligature .signAndTifinagh => 1
  | .joinedIndicator => 1
  | .joinedIndicators false => 1
  | _ => 0

namespace Neighbour

theorem reserve_nonneg (neighbour : Neighbour) : 0 ≤ neighbour.reserve := by
  unfold reserve
  split <;> decide

theorem reserve_le_one (neighbour : Neighbour) : neighbour.reserve ≤ 1 := by
  unfold reserve
  split <;> decide

theorem one_le_charWidth_of_isSubjoinable {n : Nat} (h : isSubjoinable n = true) :
    1 ≤ charWidth n := by
  have hpoint := mem_points_of_covers h
  clear h
  revert n
  decide +kernel

theorem reserve_ofChar (n : Nat) : (ofChar n).reserve ≤ charWidth n := by
  by_cases hs : isSubjoinable n = true
  · exact Int.le_trans (reserve_le_one _) (Int.ofNat_le.2 (one_le_charWidth_of_isSubjoinable hs))
  · have hnone : (0 : Int) ≤ charWidth n := Int.natCast_nonneg _
    unfold ofChar
    split
    · next part hpart =>
      unfold Ligature.ofChar? at hpart
      split_ifs at hpart <;> cases hpart <;> exact hnone
    · split_ifs <;> exact hnone

/-- A character takes back no more than is reserved for it, its own reserve included. -/
def Affords (behind : Neighbour) (added : Int × Neighbour) : Prop :=
  added.2.reserve ≤ behind.reserve + added.1

namespace Affords

instance (behind : Neighbour) (added : Int × Neighbour) : Decidable (Affords behind added) :=
  inferInstanceAs (Decidable (added.2.reserve ≤ behind.reserve + added.1))

variable {behind : Neighbour} {n : Nat}

theorem free {cells : Int} {next : Neighbour} (hcells : 0 ≤ cells) (hnext : next.reserve = 0) :
    Affords behind (cells, next) := by
  have hbehind := behind.reserve_nonneg
  simp only [Affords]
  omega

theorem alone : Affords behind (alone n) := by
  have hown := reserve_ofChar n
  have hbehind := behind.reserve_nonneg
  simp only [Affords, Neighbour.alone]
  omega

theorem ite {p : Prop} [Decidable p] {added other : Int × Neighbour} (ha : Affords behind added)
    (ho : Affords behind other) : Affords behind (if p then added else other) := by
  split
  · exact ha
  · exact ho

theorem letter {part : Ligature} {cells : Int} {rest : Option Ligature}
    (h : part.letter? n = some (cells, rest)) :
    Affords (.ligature part) (cells, ofLigature? rest) := by
  unfold Ligature.letter? at h
  -- Every letter that adds a cell less, or leaves a reserve, has a line of its own.
  split at h
  all_goals try split_ifs at h
  all_goals cases h
  all_goals exact of_decide_eq_true rfl

theorem extend {part : Ligature} {cells : Int} {rest : Option Ligature}
    (h : part.extend? n = some (cells, rest)) :
    Affords (.ligature part) (cells, ofLigature? rest) := by
  unfold Ligature.extend? at h
  split at h
  · split_ifs at h
    · cases h
      exact .free (Int.le_refl 0) rfl
    · exact .letter h
  · split_ifs at h
    · cases h
      exact .free (Int.le_refl 0) (by cases part <;> rfl)
    · cases h
      exact Int.le_of_eq (Int.add_zero _).symm
    · exact .letter h

theorem addTag : Affords behind (addTag n behind) := by
  unfold Neighbour.addTag
  split
  · exact .ite (.free (Int.le_refl 0) rfl) (.ite (.free (Int.le_refl 0) rfl)
      (.ite (.free (Int.le_refl 0) rfl) .alone))
  · exact .ite (.free (Int.le_refl 0) rfl) (.ite (.free (Int.le_refl 0) rfl)
      (.ite (.free (Int.le_refl 0) rfl) .alone))
  · exact .alone

end Affords

theorem affords_add (n : Nat) (behind : Neighbour) : behind.Affords (behind.add n) := by
  have hzero : (0 : Int) ≤ 0 := Int.le_refl 0
  have hone : (0 : Int) ≤ 1 := by decide
  cases behind with
  | plain => exact .alone
  | joinedKeycap => exact .alone
  | ligature part =>
    rw [add]
    split
    · next h => exact .extend h
    · exact .alone
  | emoji => exact .ite (.free hzero rfl) .alone
  | skinTone => exact .ite (.free hzero rfl) (.ite (.free hzero rfl) .alone)
  | indicator => exact .ite (.free hone rfl) .alone
  | indicators => exact .ite (.free hone rfl) (.ite (.free hzero rfl) .alone)
  | joiner =>
    -- The indicator that adds a cell here is the one that leaves a reserve.
    have hindicator : Affords .joiner (1, .joinedIndicator) := Int.le_refl 1
    exact .ite (.free hzero rfl) (.ite hindicator (.ite (.free hzero rfl)
      (.ite (.free hzero rfl) (.ite (.free hzero rfl) .alone))))
  | joinedIndicator =>
    have htaken : Affords .joinedIndicator (-1, .joinedIndicators true) := Int.le_refl 0
    exact .ite htaken .alone
  | joinedIndicators isEven =>
    have hindicator : Affords (.joinedIndicators isEven)
        (if isEven then 3 else -1, .joinedIndicators !isEven) := by
      cases isEven with
      | true => exact (by decide : (1 : Int) ≤ 0 + 3)
      | false => exact Int.le_refl 0
    exact .ite hindicator (.ite (.free hzero rfl) .alone)
  | tagLetters count => exact .addTag
  | tagDigits count => exact .addTag

theorem reserve_pastSelector_le (neighbour : Neighbour) :
    neighbour.pastSelector.reserve ≤ neighbour.reserve := by
  unfold pastSelector
  split
  · exact Int.le_refl _
  · exact neighbour.reserve_nonneg

theorem reserve_behind_le (selector : Selector) (neighbour : Neighbour) :
    (neighbour.behind selector).reserve ≤ neighbour.reserve := by
  unfold behind
  split
  · exact Int.le_refl _
  · exact neighbour.reserve_pastSelector_le

end Neighbour

namespace Context

theorem reserve_addUnselected (n : Nat) (neighbour : Neighbour) :
    (addUnselected n neighbour).2.neighbour.reserve ≤
      neighbour.reserve + (addUnselected n neighbour).1 := by
  unfold addUnselected
  split
  · next selector _ =>
    have hbehind := neighbour.reserve_behind_le selector
    simp only
    omega
  · exact neighbour.affords_add n

theorem reserve_add (n : Nat) (context : Context) :
    (context.add n).2.neighbour.reserve ≤ context.neighbour.reserve + (context.add n).1 := by
  have hnonneg := context.neighbour.reserve_nonneg
  have hunselected := reserve_addUnselected n context.neighbour.pastSelector
  have hpast := context.neighbour.reserve_pastSelector_le
  unfold add
  split
  · exact reserve_addUnselected n _
  · split
    · refine Neighbour.Affords.free ?_ rfl
      split <;> decide
    · simp only at hunselected hpast ⊢
      omega
  · split
    · exact Neighbour.Affords.free (by decide) rfl
    · simp only at hunselected hpast ⊢
      omega
  · split
    · exact Neighbour.Affords.free (by decide) rfl
    · simp only at hunselected hpast ⊢
      omega

end Context

theorem measure_cons (c : Char) (text : Text) : measure (c :: text) =
    ((measure text).1 + ((measure text).2.add c.toNat).1, ((measure text).2.add c.toNat).2) := rfl

theorem reserve_le_measure (text : Text) :
    (measure text).2.neighbour.reserve ≤ (measure text).1 := by
  induction text with
  | nil => exact Int.le_refl 0
  | cons c text ih =>
    have hstep := Context.reserve_add c.toNat (measure text).2
    rw [measure_cons]
    simp only
    omega

theorem textWidth_eq (text : Text) : (textWidth text : Int) = (measure text).1 :=
  Int.toNat_of_nonneg (Int.le_trans (Neighbour.reserve_nonneg _) (reserve_le_measure text))

theorem add_sgrEnd (context : Context) : context.add 'm'.toNat = (1, .plain) := by
  have hunselected (neighbour : Neighbour) :
      Context.addUnselected 'm'.toNat neighbour = (1, .plain) := by
    cases neighbour with
    | ligature part =>
      cases part with
      | lamed joined => cases joined <;> rfl
      | ya joined => cases joined <;> rfl
      | tifinagh joined => cases joined <;> rfl
      | orkhonI joined => cases joined <;> rfl
      | _ => rfl
    | _ => rfl
  obtain ⟨selector, neighbour⟩ := context
  cases selector with
  | none => exact hunselected neighbour
  | some selector => cases selector <;> exact hunselected neighbour.pastSelector

/-- A text whose characters take a cell each, whatever stands behind it, and part that from what
stands in front of it. -/
def Parts (text : Text) : Prop :=
  ∀ rest : Text, measure (text ++ rest) = ((measure rest).1 + text.length, .plain)

theorem Parts.append {front back : Text} (hf : Parts front) (hb : Parts back) :
    Parts (front ++ back) := by
  intro rest
  rw [List.append_assoc, hf, hb, List.length_append, Int.natCast_add]
  simp only [Prod.mk.injEq, and_true]
  omega

theorem parts_cons {c : Char} (hc : Context.plain.add c.toNat = (1, .plain)) {text : Text}
    (h : Parts text) : Parts (c :: text) := by
  intro rest
  rw [List.cons_append, measure_cons, h, hc, List.length_cons, Int.natCast_succ, Int.add_assoc]

theorem add_parameter {c : Char} (h : isSgrParameter c = true) :
    Context.plain.add c.toNat = (1, .plain) := by
  have hascii : ∀ n < 60, 48 ≤ n → Context.plain.add n = (1, .plain) := by decide
  rw [isSgrParameter, Bool.or_eq_true, decide_eq_true_eq] at h
  rcases h with h | rfl
  · rw [Char.isDigit, Bool.and_eq_true, decide_eq_true_eq, decide_eq_true_eq] at h
    have hlow : 48 ≤ c.toNat := h.1
    have hhigh : c.toNat ≤ 57 := h.2
    exact hascii _ (by omega) hlow
  · rfl

theorem parts_sgr {parameters : Text} (h : parameters.all isSgrParameter = true) :
    Parts (sgr parameters) := by
  have hend : Parts ['m'] := by
    intro rest
    rw [List.singleton_append, measure_cons, add_sgrEnd]
    rfl
  have hparameters : Parts (parameters ++ ['m']) := by
    induction parameters with
    | nil => exact hend
    | cons c parameters ih =>
      obtain ⟨hc, hrest⟩ := Bool.and_eq_true_iff.1 h
      exact parts_cons (add_parameter hc) (ih hrest)
  exact parts_cons rfl (parts_cons rfl hparameters)

theorem parts_codes (style : Style) : Parts style.codes :=
  style.codes_induction (fun _ => parts_sgr) fun _ _ => Parts.append

theorem measure_append {back : Text} (h : (measure back).2 = .plain) (front : Text) :
    measure (front ++ back) =
      ((measure front).1 + (measure back).1, (measure front).2) := by
  induction front with
  | nil => exact Prod.ext (Int.zero_add _).symm h
  | cons c front ih =>
    rw [List.cons_append, measure_cons, measure_cons, ih]
    simp only [Prod.mk.injEq, and_true]
    omega

theorem textWidth_append_of_parts {front : Text} (h : Parts front) (back : Text) :
    textWidth (front ++ back) = front.length + textWidth back := by
  have hcells : (textWidth (front ++ back) : Int) = textWidth back + front.length := by
    rw [textWidth_eq, textWidth_eq, h]
  omega

theorem textWidth_append_parts {back : Text} (h : Parts back) (front : Text) :
    textWidth (front ++ back) = textWidth front + back.length := by
  have hback : measure back = ((back.length : Int), .plain) := by
    have hnil := h []
    rw [List.append_nil] at hnil
    rw [hnil]
    exact Prod.ext (Int.zero_add _) rfl
  have hcells : (textWidth (front ++ back) : Int) = textWidth front + back.length := by
    rw [textWidth_eq, textWidth_eq, measure_append (by rw [hback]), hback]
  omega

end FieldQuery.Unicode
