import FieldQuery.Settings.Layer
set_option autoImplicit false

namespace FieldQuery

namespace Layer

/-- Every field has the value of the first layer that sets it, or else its default. -/
def firstSet (layers : List Layer) : Settings where
  format := (layers.findSome? format?).getD .tree
  pretty := (layers.findSome? pretty?).getD true
  color := (layers.findSome? color?).getD true
  prettyExplicit := (layers.findSome? pretty?).isSome
  level := (layers.findSome? level?).getD "warn".toList

theorem getD_findSome?_cons {α : Type} (field : Layer → Option α) (l : Layer)
    (layers : List Layer) (value : α) :
    ((l :: layers).findSome? field).getD value =
      (field l).getD ((layers.findSome? field).getD value) := by
  rw [List.findSome?_cons]
  cases field l <;> rfl

theorem isSome_findSome?_cons {α : Type} (field : Layer → Option α) (l : Layer)
    (layers : List Layer) :
    ((l :: layers).findSome? field).isSome =
      ((field l).isSome || (layers.findSome? field).isSome) := by
  rw [List.findSome?_cons]
  cases field l <;> rfl

theorem firstSet_cons (l : Layer) (layers : List Layer) :
    firstSet (l :: layers) = l.onto (firstSet layers) := by
  simp only [firstSet, onto, getD_findSome?_cons, isSome_findSome?_cons]

theorem foldr_onto_default (layers : List Layer) :
    layers.foldr onto .default = firstSet layers := by
  induction layers with
  | nil => rfl
  | cons l layers ih => rw [List.foldr_cons, ih, firstSet_cons]

end Layer

namespace Config

theorem merge_eq (layers : List (Text × Layer)) :
    merge layers = ⟨Layer.firstSet (layers.map (·.2)), layers.map (·.1)⟩ := by
  rw [← Layer.foldr_onto_default, List.foldr_map]
  rfl

end Config

end FieldQuery
