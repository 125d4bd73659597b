import FieldQuery.Text
import Mathlib.Data.List.Forall2
set_option autoImplicit false

namespace FieldQuery.Text

theorem forall_mem_intercalate {P : Char → Prop} {sep : Text} {parts : List Text}
    (hs : ∀ c ∈ sep, P c) (h : ∀ part ∈ parts, ∀ c ∈ part, P c) :
    ∀ c ∈ sep.intercalate parts, P c := by
  induction parts with
  | nil => exact nofun
  | cons part parts ih =>
    obtain ⟨hpart, hparts⟩ := List.forall_mem_cons.1 h
    cases parts with
    | nil => rwa [List.intercalate_singleton]
    | cons next parts =>
      rw [List.intercalate_cons_cons, List.forall_mem_append, List.forall_mem_append]
      exact ⟨⟨hpart, hs⟩, ih hparts⟩

theorem not_mem_intercalate {c : Char} {sep : Text} {parts : List Text} (hs : c ∉ sep)
    (h : ∀ part ∈ parts, c ∉ part) : c ∉ sep.intercalate parts := by
  have hall := forall_mem_intercalate (P := (c ≠ ·)) (fun d hd heq => hs (heq ▸ hd))
    fun part hpart d hd heq => h part hpart (heq ▸ hd)
  exact fun hmem => hall c hmem rfl

theorem intercalate_append_singleton (sep last : Text) (parts : List Text) :
    sep.intercalate (parts ++ [last]) = parts.flatMap (· ++ sep) ++ last := by
  induction parts with
  | nil => rw [List.nil_append, List.intercalate_singleton, List.flatMap_nil, List.nil_append]
  | cons part parts ih =>
    have hne : parts ++ [last] ≠ [] := by simp
    rw [List.cons_append, List.intercalate_cons_of_ne_nil hne, ih, List.flatMap_cons]
    simp only [List.append_assoc]

theorem splitOn_ne_nil (sep : Char) (text : Text) : text.splitOn sep ≠ [] := by
  cases text with
  | nil => nofun
  | cons c text =>
    rw [splitOn]
    split
    · nofun
    · split <;> nofun

theorem splitOn_cons_of_ne {sep c : Char} (h : c ≠ sep) {text part : Text} {parts : List Text}
    (ht : text.splitOn sep = part :: parts) :
    splitOn sep (c :: text) = (c :: part) :: parts := by
  rw [splitOn, if_neg h, ht]

theorem splitOn_append_left {sep : Char} {front : Text} (h : sep ∉ front) {text part : Text}
    {parts : List Text} (ht : text.splitOn sep = part :: parts) :
    splitOn sep (front ++ text) = (front ++ part) :: parts := by
  induction front with
  | nil => exact ht
  | cons c front ih =>
    obtain ⟨hc, hfront⟩ := not_or.1 (mt List.mem_cons.2 h)
    exact splitOn_cons_of_ne (Ne.symm hc) (ih hfront)

theorem splitOn_append_right {sep : Char} {back : Text} (h : sep ∉ back) (text : Text) :
    List.Forall₂ (fun long part => long = part ∨ long = part ++ back)
      (splitOn sep (text ++ back)) (splitOn sep text) := by
  induction text with
  | nil =>
    have hback : splitOn sep back = [back] := by
      have hnil := splitOn_append_left h (show splitOn sep [] = [[]] from rfl)
      rwa [List.append_nil] at hnil
    rw [List.nil_append, hback]
    exact .cons (.inr rfl) .nil
  | cons c text ih =>
    rw [List.cons_append]
    by_cases hc : c = sep
    · rw [splitOn, splitOn, if_pos hc, if_pos hc]
      exact .cons (.inl rfl) ih
    · obtain ⟨part, parts, hparts⟩ := List.exists_cons_of_ne_nil (splitOn_ne_nil sep text)
      obtain ⟨long, longs, hlongs⟩ :=
        List.exists_cons_of_ne_nil (splitOn_ne_nil sep (text ++ back))
      rw [hparts, hlongs] at ih
      rw [splitOn_cons_of_ne hc hparts, splitOn_cons_of_ne hc hlongs]
      obtain ⟨hfirst, hothers⟩ := List.forall₂_cons.1 ih
      refine .cons (hfirst.imp (fun heq => ?_) fun heq => ?_) hothers
      · rw [heq]
      · rw [heq, List.cons_append]

theorem mem_of_mem_splitOn {sep c : Char} {text part : Text} (hpart : part ∈ text.splitOn sep)
    (hc : c ∈ part) : c ∈ text := by
  induction text generalizing part with
  | nil =>
    obtain rfl := List.mem_singleton.1 hpart
    exact hc
  | cons d text ih =>
    by_cases hsep : d = sep
    · rw [splitOn, if_pos hsep] at hpart
      rcases List.mem_cons.1 hpart with rfl | hpart
      · exact absurd hc List.not_mem_nil
      · exact List.mem_cons_of_mem d (ih hpart hc)
    · obtain ⟨first, others, hparts⟩ := List.exists_cons_of_ne_nil (splitOn_ne_nil sep text)
      rw [splitOn_cons_of_ne hsep hparts] at hpart
      rw [hparts] at ih
      rcases List.mem_cons.1 hpart with rfl | hpart
      · rcases List.mem_cons.1 hc with rfl | hc
        · exact List.mem_cons_self
        · exact List.mem_cons_of_mem d (ih List.mem_cons_self hc)
      · exact List.mem_cons_of_mem d (ih (List.mem_cons_of_mem first hpart) hc)

end FieldQuery.Text
