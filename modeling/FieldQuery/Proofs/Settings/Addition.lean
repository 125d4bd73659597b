import FieldQuery.Proofs.Settings.Isolation
set_option autoImplicit false

/-! A settings file that is added and sets nothing. The search finds the files that it found before
and perhaps the new one among them, and what they come to stays as it was. -/

namespace FieldQuery

/-- The second list is the first one, or has one element more, of which `P` holds. -/
inductive Gains {α : Type} (P : α → Prop) : List α → List α → Prop where
  | same (as : List α) : Gains P as as
  | here {a : α} (as : List α) : P a → Gains P as (a :: as)
  | later {as bs : List α} (a : α) : Gains P as bs → Gains P (a :: as) (a :: bs)

namespace Gains

variable {α β : Type} {P : α → Prop} {as bs : List α}

theorem append_right (h : Gains P as bs) (cs : List α) : Gains P (as ++ cs) (bs ++ cs) := by
  induction h with
  | same as => exact .same _
  | here as ha => exact .here _ ha
  | later a _ ih => exact .later a ih

theorem last {a : α} (ha : P a) (as : List α) : Gains P as (as ++ [a]) := by
  induction as with
  | nil => exact .here [] ha
  | cons b as ih => exact .later b ih

theorem map {Q : β → Prop} {f : α → β} (h : Gains P as bs) (hf : ∀ a, P a → Q (f a)) :
    Gains Q (as.map f) (bs.map f) := by
  induction h with
  | same as => exact .same _
  | here as ha => exact .here _ (hf _ ha)
  | later a _ ih => exact .later (f a) ih

theorem eq_of_forall_not (h : Gains P as bs) (hn : ∀ b ∈ bs, ¬ P b) : bs = as := by
  induction h with
  | same as => rfl
  | here as ha => exact absurd ha (hn _ List.mem_cons_self)
  | later a _ ih => rw [ih (List.forall_mem_cons.1 hn).2]

theorem forall_iff {Q : α → Prop} (h : Gains P as bs) (hq : ∀ a, P a → Q a) :
    (∀ b ∈ bs, Q b) ↔ ∀ a ∈ as, Q a := by
  induction h with
  | same as => rfl
  | here as ha => simp [hq _ ha]
  | later a _ ih => rw [List.forall_mem_cons, List.forall_mem_cons, ih]

end Gains

namespace Config

open FieldQuery.Path (Descends names)

variable {tree after : FileTree} {directory : Path}

def silent : Layer := ⟨none, none, none⟩

/-- A settings file that sets nothing is added in a directory. -/
structure Adds (tree after : FileTree) (directory : Path) : Prop where
  absent : tree.bytesAt? (fileName :: directory.names) = none
  added : ∃ text, after.bytesAt? (fileName :: directory.names) = some (Text.toBytes text) ∧
    Layer.ofToml? text = some silent
  others : ∀ location ≠ fileName :: directory.names,
    after.bytesAt? location = tree.bytesAt? location

/-- A file of the directory, however its path is written. -/
def IsFileOf (directory file : Path) : Prop :=
  ∃ d : Path, d.Descends ∧ d.names = directory.names ∧ fileIn d = file

theorem names_of_isFileOf {file : Path} (hf : IsFileOf directory file) :
    file.names = fileName :: directory.names := by
  obtain ⟨d, -, hn, rfl⟩ := hf
  rw [names_fileIn, hn]

theorem adds_of_writeText {text : Text} (hd : directory.Descends)
    (ha : tree.hasEntry (fileIn directory) = false)
    (hw : tree.writeText (fileIn directory) text = .ok after)
    (hs : Layer.ofToml? text = some silent) : Adds tree after directory := by
  have hentry := FileTree.entry?_writeText hd (by decide) (by decide) hw
  refine ⟨?_, ⟨text, ?_, hs⟩, fun location hne => ?_⟩
  · rw [FileTree.bytesAt?, FileTree.entry?_of_hasEntry hd (by decide) (by decide) ha]
  · rw [FileTree.bytesAt?, hentry, if_pos rfl]
  · rw [FileTree.bytesAt?, FileTree.bytesAt?, hentry, if_neg hne]

namespace Adds

theorem bytes?_of_isFileOf (h : Adds tree after directory) {file : Path}
    (hf : IsFileOf directory file) : tree.bytes? file = none := by
  obtain ⟨d, hd, hn, rfl⟩ := hf
  rw [bytes?_fileIn hd, hn, h.absent]

theorem layerAt?_of_isFileOf (h : Adds tree after directory) {file : Path}
    (hf : IsFileOf directory file) : layerAt? after file = some silent := by
  obtain ⟨d, hd, hn, rfl⟩ := hf
  obtain ⟨text, htext, hs⟩ := h.added
  rw [← hn, ← bytes?_fileIn hd] at htext
  rw [layerAt?_of_bytes? htext, hs]

theorem isFile (h : Adds tree after directory) (hd : directory.Descends) :
    after.isFile (fileIn directory) = true := by
  obtain ⟨text, htext, -⟩ := h.added
  rw [FileTree.isFile_eq_isSome_bytes?, bytes?_fileIn hd, htext]
  rfl

theorem bytes?_of_ne (h : Adds tree after directory) {d : Path} (hd : d.Descends)
    (hn : d.names ≠ directory.names) : tree.bytes? (fileIn d) = after.bytes? (fileIn d) := by
  rw [bytes?_fileIn hd, bytes?_fileIn hd, h.others _ fun he => hn (List.cons.inj he).2]

theorem filesAt_gains (h : Adds tree after directory) {directories : List Path}
    (hd : ∀ d ∈ directories, Descends d) (hn : (directories.map names).Nodup) :
    Gains (IsFileOf directory) (filesAt tree directories) (filesAt after directories) := by
  induction directories with
  | nil => exact .same _
  | cons d directories ih =>
    rw [List.forall_mem_cons] at hd
    rw [List.map_cons, List.nodup_cons] at hn
    rw [filesAt_cons, filesAt_cons]
    by_cases he : d.names = directory.names
    · have hf : IsFileOf directory (fileIn d) := ⟨d, hd.1, he, rfl⟩
      have hsame : filesAt tree directories = filesAt after directories := by
        refine filesAt_congr fun d' hd' => h.bytes?_of_ne (hd.2 d' hd') fun he' => hn.1 ?_
        rw [he, ← he']
        exact List.mem_map_of_mem hd'
      rw [h.bytes?_of_isFileOf hf, isSome_bytes?_of_layerAt? (h.layerAt?_of_isFileOf hf), hsame]
      exact .here _ hf
    · rw [← h.bytes?_of_ne hd.1 he]
      split
      · exact .later _ (ih hd.2 hn.2)
      · exact ih hd.2 hn.2

theorem around_gains (h : Adds tree after directory) {d : Path} (hd : d.Descends) :
    Gains (IsFileOf directory) (filesAt tree d.ancestors) (filesAt after d.ancestors) :=
  h.filesAt_gains (fun _ => hd.ancestor) (Path.nodup_names_ancestors d)

theorem upToRoot_gains (h : Adds tree after directory) {files files' : List Path}
    (hg : Gains (IsFileOf directory) files files')
    (hsame : ∀ file ∈ files, tree.bytes? file = after.bytes? file) :
    Gains (IsFileOf directory) (upToRoot tree files) (upToRoot after files') := by
  induction hg with
  | same files =>
    rw [upToRoot_congr hsame]
    exact .same _
  | here files ha =>
    rw [upToRoot_congr hsame, upToRoot_cons, endsSearch, h.layerAt?_of_isFileOf ha]
    exact .here _ ha
  | later file _ ih =>
    rw [List.forall_mem_cons] at hsame
    rw [upToRoot_cons, upToRoot_cons, endsSearch, endsSearch, layerAt?_congr hsame.1]
    split
    · exact .same _
    · exact .later file (ih hsame.2)

theorem bytes?_of_isSome (h : Adds tree after directory) {d : Path} (hd : d.Descends)
    (hs : (tree.bytes? (fileIn d)).isSome) :
    tree.bytes? (fileIn d) = after.bytes? (fileIn d) := by
  refine h.bytes?_of_ne hd fun hn => ?_
  rw [h.bytes?_of_isFileOf ⟨d, hd, hn, rfl⟩] at hs
  cases hs

theorem bytes?_of_mem_filesAt (h : Adds tree after directory) {directories : List Path}
    (hd : ∀ d ∈ directories, Descends d) {file : Path} (hf : file ∈ filesAt tree directories) :
    tree.bytes? file = after.bytes? file := by
  obtain ⟨hm, hs⟩ := List.mem_filter.1 hf
  obtain ⟨d, hmem, rfl⟩ := List.mem_map.1 hm
  exact h.bytes?_of_isSome (hd d hmem) hs

theorem bytes?_of_mem_visible (h : Adds tree after directory) {home d : Path}
    (hhome : home.Descends) (hd : d.Descends) {file : Path} (hf : file ∈ visible tree home d) :
    tree.bytes? file = after.bytes? file := by
  rw [visible] at hf
  rcases List.mem_append.1 hf with hf | hf
  · exact h.bytes?_of_mem_filesAt (fun _ => hd.ancestor) ((upToRoot_sublist tree _).mem hf)
  · split at hf
    · next hg =>
      rw [List.mem_singleton.1 hf]
      exact h.bytes?_of_isSome hhome hg.1
    · cases hf

theorem adds_global_iff (h : Adds tree after directory) {home d : Path} (hhome : home.Descends)
    (hd : d.Descends) (hne : home.names ≠ directory.names) :
    ((after.bytes? (fileIn home)).isSome ∧ ∀ file ∈ filesAt after d.ancestors,
        endsSearch after file = false ∧ file.names ≠ (fileIn home).names) ↔
      (tree.bytes? (fileIn home)).isSome ∧ ∀ file ∈ filesAt tree d.ancestors,
        endsSearch tree file = false ∧ file.names ≠ (fileIn home).names := by
  have hadded : ∀ file, IsFileOf directory file →
      endsSearch after file = false ∧ file.names ≠ (fileIn home).names := by
    intro file hf
    refine ⟨by rw [endsSearch, h.layerAt?_of_isFileOf hf]; rfl, ?_⟩
    rw [names_of_isFileOf hf, names_fileIn]
    exact fun he => hne (List.cons.inj he).2.symm
  rw [(h.around_gains hd).forall_iff hadded, h.bytes?_of_ne hhome hne]
  refine and_congr_right fun _ => forall₂_congr fun file hf => ?_
  rw [endsSearch, endsSearch, layerAt?_congr (h.bytes?_of_mem_filesAt (fun _ => hd.ancestor) hf)]

theorem visible_gains (h : Adds tree after directory) {home d : Path} (hhome : home.Descends)
    (hd : d.Descends) :
    Gains (IsFileOf directory) (visible tree home d) (visible after home d) := by
  have hsame : ∀ file ∈ filesAt tree d.ancestors, tree.bytes? file = after.bytes? file :=
    fun file => h.bytes?_of_mem_filesAt fun _ => hd.ancestor
  have hup := h.upToRoot_gains (h.around_gains hd) hsame
  rw [visible, visible]
  by_cases hn : home.names = directory.names
  · have hf : IsFileOf directory (fileIn home) := ⟨home, hhome, hn, rfl⟩
    rw [if_neg (by simp [h.bytes?_of_isFileOf hf]), List.append_nil]
    by_cases hin : ∃ file ∈ filesAt after d.ancestors, IsFileOf directory file
    · obtain ⟨file, hmem, hfile⟩ := hin
      have hnames : file.names = (fileIn home).names := by
        rw [names_of_isFileOf hfile, names_of_isFileOf hf]
      rw [if_neg fun hg => (hg.2 file hmem).2 hnames, List.append_nil]
      exact hup
    · have haround := (h.around_gains hd).eq_of_forall_not fun file hm hf => hin ⟨file, hm, hf⟩
      rw [haround, ← upToRoot_congr hsame]
      split
      · exact .last hf _
      · rw [List.append_nil]
        exact .same _
  · simp only [h.adds_global_iff hhome hd hn]
    exact hup.append_right _

end Adds

theorem loadFiles_cons (tree : FileTree) (file : Path) (files : List Path) :
    (loadFiles tree (file :: files)).map (·.settings) =
      (readLayer tree file).bind fun layer =>
        ((loadFiles tree files).map (·.settings)).map layer.onto := by
  rw [loadFiles, loadFiles, readLayers]
  cases readLayer tree file with
  | error fault => rfl
  | ok layer =>
    simp only [bind, Except.bind]
    cases readLayers tree files <;> rfl

theorem Adds.loadFiles_gains (h : Adds tree after directory) {files files' : List Path}
    (hg : Gains (IsFileOf directory) files files') (hf : ∀ file ∈ files, (tree.bytes? file).isSome)
    (hsame : ∀ file ∈ files, tree.bytes? file = after.bytes? file) :
    (loadFiles after files').map (·.settings) = (loadFiles tree files).map (·.settings) := by
  induction hg with
  | same files => rw [loadFiles, loadFiles, readLayers_congr hf hsame]
  | here files ha =>
    rw [loadFiles_cons, readLayer_of_layerAt? (h.layerAt?_of_isFileOf ha), loadFiles, loadFiles,
      readLayers_congr hf hsame]
    cases readLayers after files <;> rfl
  | later file _ ih =>
    rw [List.forall_mem_cons] at hf hsame
    rw [loadFiles_cons, loadFiles_cons, ih hf.2 hsame.2, readLayer_congr hf.1 hsame.1]

/-- Loading comes to the same settings as before, or fails as before. The sources are those from
before, or there is one more among them, which is the file of the directory. -/
structure Undisturbed (directory : Path) (before after : Except LoadFault Config) : Prop where
  settings : after.map (·.settings) = before.map (·.settings)
  sources : ∀ config config', before = .ok config → after = .ok config' →
    Gains (fun source => ∃ file, IsFileOf directory file ∧ source = file.toText)
      config.sources config'.sources

theorem sources_of_load {home d : Path} {config : Config} (h : load tree home d = .ok config) :
    config.sources = (visible tree home d).map Path.toText := by
  rw [load, discover_eq_visible] at h
  rw [(((resolves_loadFiles fun _ => isSome_bytes?_of_mem_visible).ok_iff config).1 h).2]

theorem Adds.load_undisturbed (h : Adds tree after directory) {home d : Path}
    (hhome : home.Descends) (hd : d.Descends) :
    Undisturbed directory (load tree home d) (load after home d) := by
  have hvisible := h.visible_gains hhome hd
  refine ⟨?_, fun config config' hbefore hafter => ?_⟩
  · rw [load, load, discover_eq_visible, discover_eq_visible]
    exact h.loadFiles_gains hvisible (fun _ => isSome_bytes?_of_mem_visible)
      fun _ => h.bytes?_of_mem_visible hhome hd
  · rw [sources_of_load hbefore, sources_of_load hafter]
    exact hvisible.map fun file hf => ⟨file, hf, rfl⟩

end Config

end FieldQuery
