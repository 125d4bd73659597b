import FieldQuery.FileTree
import Mathlib.Data.List.Infix
set_option autoImplicit false

namespace FieldQuery

namespace Path

/-- No piece of the path leads back to the directory around another one. -/
def Descends (path : Path) : Prop := ['.', '.'] ∉ path.pieces

instance (path : Path) : Decidable path.Descends := inferInstanceAs (Decidable (_ ∉ _))

theorem exists_pieces_join (path : Path) (name : Text) :
    ∃ outer, path.join name = ⟨name :: outer⟩ ∧ names ⟨outer⟩ = path.names ∧
      ∀ piece ∈ outer, piece ∈ path.pieces := by
  obtain ⟨pieces⟩ := path
  unfold join
  split
  · next outer hp =>
    obtain rfl : pieces = [] :: outer := hp
    exact ⟨outer, rfl, by simp [names, isBlank], by simp +contextual⟩
  · exact ⟨pieces, rfl, rfl, fun _ => id⟩

theorem names_join (path : Path) {name : Text} (hn : isBlank name = false) :
    (path.join name).names = name :: path.names := by
  obtain ⟨outer, hj, hnames, -⟩ := exists_pieces_join path name
  rw [hj, ← hnames]
  simp [names, hn]

theorem names_dropBlanks (pieces : List Text) :
    names ⟨pieces.dropWhile isBlank⟩ = names ⟨pieces⟩ := by
  induction pieces with
  | nil => rfl
  | cons piece outer ih =>
    by_cases hb : isBlank piece = true
    · rw [List.dropWhile_cons_of_pos hb, ih]
      simp [names, hb]
    · rw [List.dropWhile_cons_of_neg hb]

theorem names_above (pieces : List Text) :
    (above pieces).map names = (names ⟨pieces⟩).tails.tail := by
  induction pieces with
  | nil => rfl
  | cons piece outer ih =>
    by_cases hb : isBlank piece = true
    · have hn : names ⟨piece :: outer⟩ = names ⟨outer⟩ := by simp [names, hb]
      rw [hn, above, if_pos hb, ih]
    · have hn : names ⟨piece :: outer⟩ = piece :: names ⟨outer⟩ := by simp [names, hb]
      rw [hn, above, if_neg hb, List.map_cons, ih, names_dropBlanks]
      cases names ⟨outer⟩ <;> rfl

theorem names_ancestors (path : Path) : path.ancestors.map names = path.names.tails := by
  rw [ancestors, List.map_cons, names_above]
  cases path.names <;> rfl

theorem nodup_tails {α : Type} (as : List α) : as.tails.Nodup := by
  induction as with
  | nil => simp
  | cons a as ih =>
    rw [List.tails_cons, List.nodup_cons]
    refine ⟨fun h => ?_, ih⟩
    have hl := ((List.mem_tails _ _).1 h).length_le
    rw [List.length_cons] at hl
    omega

theorem nodup_names_ancestors (path : Path) : (path.ancestors.map names).Nodup := by
  rw [names_ancestors]
  exact nodup_tails _

theorem mem_pieces_of_above {path : Path} {pieces : List Text} (h : path ∈ above pieces) :
    ∀ piece ∈ path.pieces, piece ∈ pieces := by
  induction pieces with
  | nil => cases h
  | cons piece outer ih =>
    intro other hother
    rw [above] at h
    split at h
    · exact List.mem_cons_of_mem _ (ih h other hother)
    · rcases List.mem_cons.1 h with rfl | h
      · exact List.mem_cons_of_mem _ ((List.dropWhile_sublist _).mem hother)
      · exact List.mem_cons_of_mem _ (ih h other hother)

theorem Descends.ancestor {path higher : Path} (h : path.Descends) (hm : higher ∈ path.ancestors) :
    higher.Descends := by
  rcases List.mem_cons.1 hm with rfl | hm
  · exact h
  · exact fun hback => h (mem_pieces_of_above hm _ hback)

theorem exists_parent_join (path : Path) {name : Text} (hn : isBlank name = false) :
    ∃ parent, (path.join name).parent? = some parent ∧ parent.names = path.names := by
  obtain ⟨outer, hj, hnames, -⟩ := exists_pieces_join path name
  refine ⟨⟨outer.dropWhile isBlank⟩, ?_, (names_dropBlanks outer).trans hnames⟩
  rw [hj, parent?, above, if_neg (by simp [hn])]
  rfl

end Path

namespace FileTree

open FieldQuery.Path (Descends)

variable {tree : FileTree} {location : Location}

theorem entry?_cons_of_directory (h : tree.entry? location = some .directory) (name : Text) :
    tree.entry? (name :: location) = listed? (name :: location) tree.entries :=
  if_pos h

theorem entry?_cons_of_not_directory (h : tree.entry? location ≠ some .directory) (name : Text) :
    tree.entry? (name :: location) = none :=
  if_neg h

theorem locate_cons_eq_ok_iff {piece : Text} {outer : List Text} :
    tree.locate (piece :: outer) = .ok location ↔ ∃ front, tree.locate outer = .ok front ∧
      tree.entry? front = some .directory ∧ location =
        if Path.isBlank piece then front else if piece = ['.', '.'] then front.tail
        else piece :: front := by
  rw [locate]
  cases tree.locate outer with
  | error fault => simp [bind, Except.bind]
  | ok front =>
    simp only [bind, Except.bind, Except.ok.injEq, exists_eq_left']
    split
    · next hn => simp [hn]
    · next hf => simp [hf]
    · next hd =>
      rw [eq_comm (a := location)]
      by_cases hb : Path.isBlank piece = true
      · simp [hd, hb]
      · rw [if_neg hb, if_neg hb]
        by_cases hback : piece = ['.', '.'] <;> simp [hd, hback]

theorem eq_names_of_locate {pieces : List Text} (hp : ['.', '.'] ∉ pieces)
    (h : tree.locate pieces = .ok location) : location = Path.names ⟨pieces⟩ := by
  induction pieces generalizing location with
  | nil => exact (Except.ok.inj h).symm
  | cons piece outer ih =>
    obtain ⟨hback, hp⟩ := List.ne_and_not_mem_of_not_mem_cons hp
    obtain ⟨front, hl, -, rfl⟩ := locate_cons_eq_ok_iff.1 h
    obtain rfl := ih hp hl
    by_cases hb : Path.isBlank piece = true
    · simp [Path.names, hb]
    · simp [Path.names, hb, Ne.symm hback]

theorem locate_of_directory {pieces : List Text} (hp : ['.', '.'] ∉ pieces)
    (h : tree.entry? (Path.names ⟨pieces⟩) = some .directory) :
    tree.locate pieces = .ok (Path.names ⟨pieces⟩) := by
  induction pieces with
  | nil => rfl
  | cons piece outer ih =>
    obtain ⟨hback, hp⟩ := List.ne_and_not_mem_of_not_mem_cons hp
    by_cases hb : Path.isBlank piece = true
    · have hn : Path.names ⟨piece :: outer⟩ = Path.names ⟨outer⟩ := by simp [Path.names, hb]
      rw [hn] at h ⊢
      simp [locate, ih hp h, h, hb, bind, Except.bind]
    · have hn : Path.names ⟨piece :: outer⟩ = piece :: Path.names ⟨outer⟩ := by
        simp [Path.names, hb]
      rw [hn] at h ⊢
      have ho : tree.entry? (Path.names ⟨outer⟩) = some .directory := by
        by_contra hne
        rw [entry?_cons_of_not_directory hne] at h
        cases h
      simp [locate, ih hp ho, ho, hb, Ne.symm hback, bind, Except.bind]

section Join

variable {path : Path} {name : Text}

theorem locate_join (hp : path.Descends) (hn : Path.isBlank name = false)
    (hback : name ≠ ['.', '.']) (hd : tree.entry? path.names = some .directory) :
    tree.locate (path.join name).pieces = .ok (name :: path.names) := by
  obtain ⟨outer, hj, hnames, hmem⟩ := Path.exists_pieces_join path name
  have ho := locate_of_directory (fun h => hp (hmem _ h)) (hnames ▸ hd)
  rw [hj, locate, ho, hnames]
  simp [hd, hn, hback, bind, Except.bind]

theorem directory_of_locate_join (hp : path.Descends)
    (h : tree.locate (path.join name).pieces = .ok location) :
    tree.entry? path.names = some .directory := by
  obtain ⟨outer, hj, hnames, hmem⟩ := Path.exists_pieces_join path name
  rw [hj] at h
  obtain ⟨front, hl, hd, -⟩ := locate_cons_eq_ok_iff.1 h
  obtain rfl := eq_names_of_locate (fun h => hp (hmem _ h)) hl
  rwa [hnames] at hd

theorem lookup_join (hp : path.Descends) (hn : Path.isBlank name = false)
    (hback : name ≠ ['.', '.']) :
    (tree.lookup (path.join name)).toOption = tree.entry? (name :: path.names) := by
  by_cases hd : tree.entry? path.names = some .directory
  · rw [lookup, locate_join hp hn hback hd]
    simp only [bind, Except.bind]
    cases tree.entry? (name :: path.names) <;> rfl
  · rw [entry?_cons_of_not_directory hd]
    cases hl : tree.locate (path.join name).pieces with
    | error fault => simp [lookup, hl, bind, Except.bind, Except.toOption]
    | ok front => exact absurd (directory_of_locate_join hp hl) hd

end Join

def bytes? (tree : FileTree) (path : Path) : Option ByteArray :=
  match tree.lookup path with
  | .ok (.file bytes) => some bytes
  | _ => none

def bytesAt? (tree : FileTree) (location : Location) : Option ByteArray :=
  match tree.entry? location with
  | some (.file bytes) => some bytes
  | _ => none

theorem isFile_eq_isSome_bytes? (tree : FileTree) (path : Path) :
    tree.isFile path = (tree.bytes? path).isSome := by
  unfold isFile bytes?
  cases tree.lookup path with
  | error fault => rfl
  | ok entry => cases entry <;> rfl

theorem readText_of_bytes? {path : Path} {bytes : ByteArray} (h : tree.bytes? path = some bytes) :
    tree.readText path = match Text.ofBytes? bytes with
      | some text => .ok text
      | none => .error .notUtf8 := by
  unfold bytes? at h
  split at h
  · next hl =>
    obtain rfl := Option.some.inj h
    rw [readText, hl]
    rfl
  · cases h

theorem bytes?_join {path : Path} (hp : path.Descends) {name : Text}
    (hn : Path.isBlank name = false) (hback : name ≠ ['.', '.']) :
    tree.bytes? (path.join name) = tree.bytesAt? (name :: path.names) := by
  rw [bytesAt?, ← lookup_join hp hn hback, bytes?]
  cases tree.lookup (path.join name) with
  | error fault => rfl
  | ok entry => cases entry <;> rfl

theorem listed?_put (written : Location) (entry : Entry) (entries : List (Location × Entry)) :
    listed? location (put written entry entries) =
      if written = location then some entry else listed? location entries := by
  induction entries with
  | nil => rfl
  | cons head entries ih =>
    obtain ⟨first, old⟩ := head
    by_cases hw : first = written
    · subst hw
      rw [put, if_pos rfl, listed?, listed?]
      split <;> rfl
    · rw [put, if_neg hw, listed?, listed?, ih]
      split
      · next hf => rw [if_neg (fun h => hw (hf.trans h.symm))]
      · rfl

theorem entry?_insert_file {written : Location} (bytes : ByteArray)
    (hw : tree.entry? written ≠ some .directory)
    (hd : tree.entry? written.tail = some .directory) (location : Location) :
    FileTree.entry? (tree.insert written (.file bytes)) location =
      if location = written then some (.file bytes) else tree.entry? location := by
  induction location with
  | nil =>
    have hne : [] ≠ written := by
      rintro rfl
      exact hw rfl
    rw [if_neg hne]
    rfl
  | cons name outer ih =>
    by_cases ho : outer = written
    · subst ho
      rw [if_pos rfl] at ih
      rw [entry?_cons_of_not_directory (by rw [ih]; simp), entry?_cons_of_not_directory hw,
        if_neg (by simp)]
    · rw [if_neg ho] at ih
      by_cases hdir : tree.entry? outer = some .directory
      · rw [entry?_cons_of_directory (ih.trans hdir), entry?_cons_of_directory hdir, insert,
          listed?_put]
        simp only [eq_comm]
      · have hne : name :: outer ≠ written := by
          rintro rfl
          exact hdir hd
        rw [entry?_cons_of_not_directory (by rwa [ih]), entry?_cons_of_not_directory hdir,
          if_neg hne]

theorem writeText_eq_ok_iff {path : Path} {text : Text} {after : FileTree} :
    tree.writeText path text = .ok after ↔ ∃ location, tree.locate path.pieces = .ok location ∧
      tree.entry? location ≠ some .directory ∧
      after = tree.insert location (.file text.toBytes) := by
  rw [writeText]
  cases tree.locate path.pieces with
  | error fault => simp [bind, Except.bind]
  | ok location =>
    simp only [bind, Except.bind, Except.ok.injEq, exists_eq_left']
    rw [eq_comm (a := after)]
    split
    · next hd => simp [hd]
    · next hd => simp [show tree.entry? location ≠ some .directory from hd]

theorem entry?_writeText {path : Path} (hp : path.Descends) {name text : Text}
    (hn : Path.isBlank name = false) (hback : name ≠ ['.', '.']) {after : FileTree}
    (h : tree.writeText (path.join name) text = .ok after) (location : Location) :
    after.entry? location =
      if location = name :: path.names then some (.file text.toBytes) else tree.entry? location := by
  obtain ⟨front, hl, hw, rfl⟩ := writeText_eq_ok_iff.1 h
  have hd := directory_of_locate_join hp hl
  obtain rfl := Except.ok.inj ((locate_join hp hn hback hd).symm.trans hl)
  exact entry?_insert_file _ hw hd location

theorem exists_writeText {path : Path} {text : Text} {after : FileTree}
    (h : tree.writeText path text = .ok after) (other : Text) :
    ∃ after', tree.writeText path other = .ok after' := by
  obtain ⟨location, hl, hw, -⟩ := writeText_eq_ok_iff.1 h
  exact ⟨_, writeText_eq_ok_iff.2 ⟨location, hl, hw, rfl⟩⟩

theorem entry?_of_hasEntry {path : Path} (hp : path.Descends) {name : Text}
    (hn : Path.isBlank name = false) (hback : name ≠ ['.', '.'])
    (h : tree.hasEntry (path.join name) = false) : tree.entry? (name :: path.names) = none := by
  rw [hasEntry] at h
  rw [← lookup_join hp hn hback]
  cases hl : tree.lookup (path.join name) with
  | error fault => rfl
  | ok entry =>
    rw [hl] at h
    cases h

end FileTree

end FieldQuery
