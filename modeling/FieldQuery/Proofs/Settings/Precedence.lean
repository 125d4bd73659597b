import FieldQuery.Proofs.Settings.Merge
set_option autoImplicit false

namespace FieldQuery

namespace Layer

/-- The value of a field is that of the first layer that sets it, or the default if none does. -/
def FirstSets {α : Type} (field : Layer → Option α) (default : α) (layers : List Layer)
    (value : α) : Prop :=
  (∃ front l back, layers = front ++ l :: back ∧ (∀ m ∈ front, field m = none) ∧
    field l = some value) ∨ (∀ l ∈ layers, field l = none) ∧ value = default

theorem firstSets_getD_findSome? {α : Type} (field : Layer → Option α) (default : α)
    (layers : List Layer) :
    FirstSets field default layers ((layers.findSome? field).getD default) := by
  cases h : layers.findSome? field with
  | none => exact .inr ⟨List.findSome?_eq_none_iff.1 h, rfl⟩
  | some value =>
    obtain ⟨front, l, back, hlayers, hl, hfront⟩ := List.findSome?_eq_some_iff.1 h
    exact .inl ⟨front, l, back, hlayers, hfront, hl⟩

/-- Two rows of layers in which every field is first set to the same value, or set in neither. -/
structure SetAlike (layers others : List Layer) : Prop where
  format : layers.findSome? format? = others.findSome? format?
  pretty : layers.findSome? pretty? = others.findSome? pretty?
  color : layers.findSome? color? = others.findSome? color?
  level : layers.findSome? level? = others.findSome? level?

theorem findSome?_around {α : Type} {field : Layer → Option α} {layers others : List Layer}
    (h : layers.findSome? field = others.findSome? field) (front back : List Layer) :
    (front ++ layers ++ back).findSome? field = (front ++ others ++ back).findSome? field := by
  simp only [List.findSome?_append, h]

theorem SetAlike.around {layers others : List Layer} (h : SetAlike layers others)
    (front back : List Layer) : SetAlike (front ++ layers ++ back) (front ++ others ++ back) where
  format := findSome?_around h.format front back
  pretty := findSome?_around h.pretty front back
  color := findSome?_around h.color front back
  level := findSome?_around h.level front back

theorem SetAlike.firstSet_eq {layers others : List Layer} (h : SetAlike layers others) :
    firstSet layers = firstSet others := by
  simp only [firstSet, h.format, h.pretty, h.color, h.level]

def combined (layers : List Layer) : Layer where
  root := none
  output := some ⟨layers.findSome? format?, layers.findSome? pretty?, layers.findSome? color?⟩
  log := some ⟨layers.findSome? level?⟩

theorem setAlike_combined (layers : List Layer) : SetAlike [combined layers] layers where
  format := by rw [List.findSome?_singleton]; rfl
  pretty := by rw [List.findSome?_singleton]; rfl
  color := by rw [List.findSome?_singleton]; rfl
  level := by rw [List.findSome?_singleton]; rfl

end Layer

namespace Config

open Layer

theorem settings_merge_around (front run others back : List (Text × Layer))
    (h : SetAlike (run.map (·.2)) (others.map (·.2))) :
    (merge (front ++ run ++ back)).settings = (merge (front ++ others ++ back)).settings := by
  simp only [merge_eq, List.map_append]
  exact (h.around _ _).firstSet_eq

/-- Every field has its own first layer, whatever the other fields of that layer say. A run of
layers may be put together into one, and a layer that sets nothing may go; the settings stay. -/
theorem merge_firstSets :
    (∀ layers : List (Text × Layer),
      FirstSets format? Settings.default.format (layers.map (·.2)) (merge layers).settings.format ∧
      FirstSets pretty? Settings.default.pretty (layers.map (·.2)) (merge layers).settings.pretty ∧
      FirstSets color? Settings.default.color (layers.map (·.2)) (merge layers).settings.color ∧
      FirstSets level? Settings.default.level (layers.map (·.2)) (merge layers).settings.level ∧
      ((merge layers).settings.prettyExplicit = true ↔
        ∃ l ∈ layers.map (·.2), l.pretty?.isSome = true) ∧
      (merge layers).sources = layers.map (·.1)) ∧
    (∀ (front run back : List (Text × Layer)) (path : Text) (l : Layer),
      SetAlike [l] (run.map (·.2)) →
      (merge (front ++ (path, l) :: back)).settings =
        (merge (front ++ run ++ back)).settings) ∧
    ∀ (front back : List (Text × Layer)) (path : Text) (l : Layer), SetAlike [l] [] →
      merge (front ++ back) = ⟨(merge (front ++ (path, l) :: back)).settings,
        front.map (·.1) ++ back.map (·.1)⟩ := by
  refine ⟨fun layers => ?_, fun front run back path l h => ?_, fun front back path l h => ?_⟩
  · rw [merge_eq]
    exact ⟨firstSets_getD_findSome? _ _ _, firstSets_getD_findSome? _ _ _,
      firstSets_getD_findSome? _ _ _, firstSets_getD_findSome? _ _ _,
      List.findSome?_isSome_iff, rfl⟩
  · rw [← settings_merge_around front [(path, l)] run back h, List.append_assoc]
    rfl
  · have hsettings := settings_merge_around front [(path, l)] [] back h
    rw [List.append_nil, List.append_assoc, List.singleton_append] at hsettings
    rw [hsettings, merge_eq, List.map_append, List.map_append]

theorem merge_firstSets_three :
    SetAlike [combined [⟨some false, some ⟨none, none, some false⟩, none⟩,
        ⟨none, some ⟨some .query, none, some true⟩, some ⟨some "debug".toList⟩⟩]]
      [⟨some false, some ⟨none, none, some false⟩, none⟩,
        ⟨none, some ⟨some .query, none, some true⟩, some ⟨some "debug".toList⟩⟩] ∧
    SetAlike [⟨some true, some ⟨none, none, none⟩, some ⟨none⟩⟩] [] ∧
    (merge [("/a/b".toList, ⟨some false, some ⟨none, none, some false⟩, none⟩),
        ("/a".toList, ⟨none, some ⟨some .query, none, some true⟩, some ⟨some "debug".toList⟩⟩),
        ("~".toList, ⟨some true, some ⟨none, none, none⟩, some ⟨none⟩⟩)]).settings =
      (merge [("/a".toList,
        ⟨none, some ⟨some .query, none, some false⟩, some ⟨some "debug".toList⟩⟩)]).settings := by
  have hempty : SetAlike [⟨some true, some ⟨none, none, none⟩, some ⟨none⟩⟩] [] :=
    ⟨rfl, rfl, rfl, rfl⟩
  refine ⟨setAlike_combined _, hempty, ?_⟩
  have hrun := merge_firstSets.2.1 []
    [("/a/b".toList, ⟨some false, some ⟨none, none, some false⟩, none⟩),
      ("/a".toList, ⟨none, some ⟨some .query, none, some true⟩, some ⟨some "debug".toList⟩⟩)]
    [("~".toList, ⟨some true, some ⟨none, none, none⟩, some ⟨none⟩⟩)] "/a".toList _
    (setAlike_combined _)
  have hlast := merge_firstSets.2.2 [("/a".toList, combined
    [⟨some false, some ⟨none, none, some false⟩, none⟩,
      ⟨none, some ⟨some .query, none, some true⟩, some ⟨some "debug".toList⟩⟩])] []
    "~".toList _ hempty
  exact hrun.symm.trans (congrArg Config.settings hlast).symm

end Config

end FieldQuery
