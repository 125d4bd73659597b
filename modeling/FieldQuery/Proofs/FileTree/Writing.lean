import FieldQuery.Proofs.FileTree
set_option autoImplicit false

namespace FieldQuery

def Entry.isDirectory : Entry → Bool
  | .directory => true
  | .file _ => false

namespace FileTree

variable {tree other after : FileTree} {location : Location} {path : Path} {text : Text}

/-- The same directories and files are there. -/
def Alike (tree other : FileTree) : Prop :=
  ∀ location, (tree.entry? location).map Entry.isDirectory =
    (other.entry? location).map Entry.isDirectory

theorem Alike.entry?_cases (h : tree.Alike other) (location : Location) :
    (tree.entry? location = none ∧ other.entry? location = none) ∨
    (tree.entry? location = some .directory ∧ other.entry? location = some .directory) ∨
    ∃ bytes bytes', tree.entry? location = some (.file bytes) ∧
      other.entry? location = some (.file bytes') := by
  have hk := h location
  match ht : tree.entry? location, ho : other.entry? location with
  | none, none => simp
  | some .directory, some .directory => simp
  | some (.file _), some (.file _) => simp
  | none, some _ => simp [ht, ho] at hk
  | some _, none => simp [ht, ho] at hk
  | some .directory, some (.file _) => simp [ht, ho, Entry.isDirectory] at hk
  | some (.file _), some .directory => simp [ht, ho, Entry.isDirectory] at hk

theorem Alike.locate_eq (h : tree.Alike other) (pieces : List Text) :
    tree.locate pieces = other.locate pieces := by
  induction pieces with
  | nil => rfl
  | cons piece outer ih =>
    rw [locate, locate, ih]
    cases other.locate outer with
    | error fault => rfl
    | ok front =>
      simp only [bind, Except.bind]
      rcases h.entry?_cases front with ⟨ht, ho⟩ | ⟨ht, ho⟩ | ⟨_, _, ht, ho⟩
      · rw [ht, ho]
      · rw [ht, ho]
      · rw [ht, ho]

theorem Alike.hasEntry_eq (h : tree.Alike other) (path : Path) :
    tree.hasEntry path = other.hasEntry path := by
  rw [hasEntry, hasEntry, lookup, lookup, h.locate_eq]
  cases other.locate path.pieces with
  | error fault => rfl
  | ok location =>
    simp only [bind, Except.bind]
    rcases h.entry?_cases location with ⟨ht, ho⟩ | ⟨ht, ho⟩ | ⟨_, _, ht, ho⟩
    · rw [ht, ho]
    · rw [ht, ho]
    · rw [ht, ho]
      rfl

theorem Alike.writeText_cases (h : tree.Alike other) (path : Path) (text : Text) :
    (∃ fault, tree.writeText path text = .error fault ∧ other.writeText path text = .error fault) ∨
    ∃ after after', tree.writeText path text = .ok after ∧
      other.writeText path text = .ok after' := by
  rw [writeText, writeText, h.locate_eq]
  cases other.locate path.pieces with
  | error fault => exact .inl ⟨fault, rfl, rfl⟩
  | ok location =>
    simp only [bind, Except.bind]
    rcases h.entry?_cases location with ⟨ht, ho⟩ | ⟨ht, ho⟩ | ⟨_, _, ht, ho⟩
    · exact .inr ⟨_, _, by rw [ht], by rw [ho]⟩
    · exact .inl ⟨.isADirectory, by rw [ht], by rw [ho]⟩
    · exact .inr ⟨_, _, by rw [ht], by rw [ho]⟩

/-- A file stands at the location where no directory stood, and nothing else has changed. -/
structure Writes (tree : FileTree) (location : Location) (text : Text) (after : FileTree) :
    Prop where
  no_directory : tree.entry? location ≠ some .directory
  written : after.entry? location = some (.file text.toBytes)
  others : ∀ elsewhere ≠ location, after.entry? elsewhere = tree.entry? elsewhere

theorem exists_writes {name : Text} (hn : Path.isBlank name = false) (hback : name ≠ ['.', '.'])
    (h : tree.writeText (path.join name) text = .ok after) :
    ∃ location, tree.locate (path.join name).pieces = .ok location ∧
      Writes tree location text after := by
  obtain ⟨location, hl, hw, rfl⟩ := writeText_eq_ok_iff.1 h
  obtain ⟨outer, hj, -, -⟩ := Path.exists_pieces_join path name
  rw [hj] at hl ⊢
  -- The name stands in a directory, so that the new entry can be reached.
  obtain ⟨front, -, hd, rfl⟩ := locate_cons_eq_ok_iff.1 hl
  rw [hn, if_neg (by simp), if_neg hback] at hl hw ⊢
  have hentry := entry?_insert_file text.toBytes hw hd
  refine ⟨_, hl, hw, ?_, fun elsewhere hne => ?_⟩
  · rw [hentry, if_pos rfl]
  · rw [hentry, if_neg hne]

theorem locate_of_directories (hd : ∀ l, tree.entry? l = some .directory →
      after.entry? l = some .directory) {pieces : List Text}
    (h : tree.locate pieces = .ok location) : after.locate pieces = .ok location := by
  induction pieces generalizing location with
  | nil => exact h
  | cons piece outer ih =>
    obtain ⟨front, hl, hdir, hloc⟩ := locate_cons_eq_ok_iff.1 h
    exact locate_cons_eq_ok_iff.2 ⟨front, ih hl, hd front hdir, hloc⟩

namespace Writes

theorem locate_eq (h : Writes tree location text after)
    (hl : tree.locate path.pieces = .ok location) : after.locate path.pieces = .ok location := by
  refine locate_of_directories (fun l hd => ?_) hl
  have hne : l ≠ location := by
    rintro rfl
    exact h.no_directory hd
  rw [h.others l hne, hd]

theorem readText_eq (h : Writes tree location text after)
    (hl : tree.locate path.pieces = .ok location) : after.readText path = .ok text := by
  have hlookup : after.lookup path = .ok (.file text.toBytes) := by
    rw [lookup, h.locate_eq hl]
    simp [bind, Except.bind, h.written]
  rw [readText, hlookup]
  simp [bind, Except.bind, Text.ofBytes?_toBytes]

theorem hasEntry_eq (h : Writes tree location text after)
    (hl : tree.locate path.pieces = .ok location) : after.hasEntry path = true := by
  rw [hasEntry, lookup, h.locate_eq hl]
  simp [bind, Except.bind, h.written, Except.isOk, Except.toBool]

theorem alike {after' : FileTree} (h : Writes tree location text after)
    (h' : Writes other location text after') (hs : tree.Alike other) : after.Alike after' := by
  intro l
  by_cases he : l = location
  · rw [he, h.written, h'.written]
  · rw [h.others l he, h'.others l he, hs l]

end Writes

end FileTree

end FieldQuery
