import FieldQuery.Json.Reader
set_option autoImplicit false

namespace FieldQuery.Json

mutual

/-- The number of arrays and objects that are open at one time. -/
def nesting : Json → Nat
  | .null => 0
  | .bool _ => 0
  | .number _ => 0
  | .string _ => 0
  | .array items => nestingOfItems items + 1
  | .object fields => nestingOfFields fields + 1

def nestingOfItems : List Json → Nat
  | [] => 0
  | item :: items => max item.nesting (nestingOfItems items)

def nestingOfFields : List (Text × Json) → Nat
  | [] => 0
  | (_, value) :: fields => max value.nesting (nestingOfFields fields)

end

theorem nesting_le_of_stringBody {levels : Nat} {text rest : Text} {document : Json}
    (h : (stringBody none text).map (fun (s, rest) => (string s, rest)) = some (document, rest)) :
    document.nesting ≤ levels := by
  obtain ⟨_, -, he⟩ := Option.map_eq_some_iff.1 h
  obtain ⟨rfl, -⟩ := Prod.mk.inj he
  exact Nat.zero_le _

theorem nesting_le_of_number? {levels : Nat} {text rest : Text} {document : Json}
    (h : number? text = some (document, rest)) : document.nesting ≤ levels := by
  simp only [number?, Option.bind_eq_bind, Option.bind_eq_some_iff] at h
  obtain ⟨_, -, _, -, _, -, h⟩ := h
  split at h
  · cases h
  · obtain ⟨rfl, -⟩ := Prod.mk.inj (Option.some.inj h)
    exact Nat.zero_le _

def Carries {α : Type} (P : α → Prop) (found again : Option (α × Text)) : Prop :=
  ∀ a rest, found = some (a, rest) → P a ∧ again = some (a, rest)

namespace Carries

variable {α β : Type} {P : α → Prop} {Q : β → Prop}

theorem same {found : Option (α × Text)} (h : ∀ a rest, found = some (a, rest) → P a) :
    Carries P found found :=
  fun a rest hf => ⟨h a rest hf, hf⟩

theorem pure {a : α} {rest : Text} (h : P a) : Carries P (some (a, rest)) (some (a, rest)) := by
  rintro _ _ ⟨⟩
  exact ⟨h, rfl⟩

theorem bind {found again : Option (α × Text)} {f g : α × Text → Option (β × Text)}
    (h : Carries P found again) (hf : ∀ a rest, P a → Carries Q (f (a, rest)) (g (a, rest))) :
    Carries Q (found >>= f) (again >>= g) := by
  intro b rest hb
  obtain ⟨⟨a, after⟩, ha, hb⟩ := Option.bind_eq_some_iff.1 hb
  obtain ⟨hp, hagain⟩ := h a after ha
  rw [hagain]
  exact hf a after hp b rest hb

theorem cons {P : List α → Prop} {Q : List α → Prop} {found again : Option (List α × Text)} {a : α}
    (h : Carries P found again) (hq : ∀ as, P as → Q (a :: as)) :
    Carries Q (found.map (consTo a)) (again.map (consTo a)) := by
  intro bs rest hb
  obtain ⟨⟨as, after⟩, has, he⟩ := Option.map_eq_some_iff.1 hb
  obtain ⟨rfl, rfl⟩ := Prod.mk.inj he
  obtain ⟨hp, hagain⟩ := h as after has
  rw [hagain]
  exact ⟨hq as hp, rfl⟩

theorem opened {levels more : Nat} (hm : levels ≤ more) {f g : Nat → Option (α × Text)}
    (h : ∀ inner inner', levels = inner + 1 → inner ≤ inner' → Carries P (f inner) (g inner')) :
    Carries P (opened? levels >>= f) (opened? more >>= g) := by
  cases levels with
  | zero => nofun
  | succ inner =>
    obtain ⟨inner', rfl⟩ : ∃ inner', more = inner' + 1 := ⟨more - 1, by omega⟩
    exact h inner inner' rfl (Nat.le_of_succ_le_succ hm)

end Carries

mutual

theorem valueWithin_levels : (fuel : Nat) → ∀ {levels more : Nat}, levels ≤ more → ∀ text : Text,
    Carries (fun document => document.nesting ≤ levels) (valueWithin fuel levels text)
      (valueWithin fuel more text)
  | 0, _, _, _, _ => nofun
  | fuel + 1, levels, more, hm, text => by
    unfold valueWithin
    generalize text.dropWhile isBlank = front
    split
    case h_1 | h_2 | h_3 => exact .pure (Nat.zero_le _)
    case h_4 => exact .same fun _ _ => nesting_le_of_stringBody
    case h_5 body =>
      refine .opened hm ?_
      rintro inner inner' rfl hin
      generalize body.dropWhile isBlank = front
      split
      · exact .pure (Nat.le_add_left _ _)
      · exact (itemsWithin_levels fuel hin _).bind fun _ _ hn => .pure (Nat.succ_le_succ hn)
    case h_6 body =>
      refine .opened hm ?_
      rintro inner inner' rfl hin
      generalize body.dropWhile isBlank = front
      split
      · exact .pure (Nat.le_add_left _ _)
      · exact (fieldsWithin_levels fuel hin _).bind fun _ _ hn => .pure (Nat.succ_le_succ hn)
    case h_7 => exact .same fun _ _ => nesting_le_of_number?

theorem itemsWithin_levels : (fuel : Nat) → ∀ {levels more : Nat}, levels ≤ more → ∀ text : Text,
    Carries (fun items => nestingOfItems items ≤ levels) (itemsWithin fuel levels text)
      (itemsWithin fuel more text)
  | 0, _, _, _, _ => nofun
  | fuel + 1, levels, more, hm, text => by
    unfold itemsWithin
    refine (valueWithin_levels fuel hm text).bind fun item rest hn => ?_
    dsimp only
    generalize rest.dropWhile isBlank = front
    split
    · exact (itemsWithin_levels fuel hm _).cons fun _ hns => Nat.max_le.2 ⟨hn, hns⟩
    · exact .pure (Nat.max_le.2 ⟨hn, Nat.zero_le _⟩)
    · nofun

theorem fieldsWithin_levels : (fuel : Nat) → ∀ {levels more : Nat}, levels ≤ more → ∀ text : Text,
    Carries (fun fields => nestingOfFields fields ≤ levels) (fieldsWithin fuel levels text)
      (fieldsWithin fuel more text)
  | 0, _, _, _, _ => nofun
  | fuel + 1, levels, more, hm, text => by
    unfold fieldsWithin
    generalize text.dropWhile isBlank = front
    split
    · refine Carries.bind (.same fun _ _ _ => trivial) fun key rest _ => ?_
      dsimp only
      generalize rest.dropWhile isBlank = front
      split
      · refine (valueWithin_levels fuel hm _).bind fun value rest hn => ?_
        dsimp only
        generalize rest.dropWhile isBlank = front
        split
        · exact (fieldsWithin_levels fuel hm _).cons fun _ hns => Nat.max_le.2 ⟨hn, hns⟩
        · exact .pure (Nat.max_le.2 ⟨hn, Nat.zero_le _⟩)
        · nofun
      · nofun
    · nofun

end

end FieldQuery.Json
