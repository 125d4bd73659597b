import FieldQuery.Proofs.Settings.Discovery
set_option autoImplicit false

namespace FieldQuery.Config

variable {tree other : FileTree}

theorem filesAt_append (tree : FileTree) (near far : List Path) :
    filesAt tree (near ++ far) = filesAt tree near ++ filesAt tree far := by
  rw [filesAt, List.map_append, List.filter_append]
  rfl

theorem upToRoot_append {files : List Path} {root : Path} (hm : root ∈ files)
    (hr : endsSearch tree root = true) (far : List Path) :
    upToRoot tree (files ++ far) = upToRoot tree files := by
  induction files with
  | nil => cases hm
  | cons file files ih =>
    rw [List.cons_append, upToRoot_cons, upToRoot_cons]
    split
    · rfl
    · next hf =>
      rcases List.mem_cons.1 hm with rfl | hm
      · exact absurd hr hf
      · rw [ih hm]

theorem visible_of_root {directory root : Path} {near far : List Path}
    (ha : directory.ancestors = near ++ far) (hm : root ∈ filesAt tree near)
    (hr : endsSearch tree root = true) (home : Path) :
    visible tree home directory = upToRoot tree (filesAt tree near) := by
  have hno : ¬ ((tree.bytes? (fileIn home)).isSome ∧ ∀ file ∈ filesAt tree (near ++ far),
      endsSearch tree file = false ∧ file.names ≠ (fileIn home).names) := by
    rintro ⟨-, hall⟩
    rw [filesAt_append] at hall
    rw [(hall root (List.mem_append_left _ hm)).1] at hr
    cases hr
  rw [visible, ha, if_neg hno, List.append_nil, filesAt_append, upToRoot_append hm hr]

theorem layerAt?_congr {file : Path} (h : tree.bytes? file = other.bytes? file) :
    layerAt? tree file = layerAt? other file := by
  rw [layerAt?, layerAt?, h]

theorem filesAt_congr {directories : List Path}
    (h : ∀ d ∈ directories, tree.bytes? (fileIn d) = other.bytes? (fileIn d)) :
    filesAt tree directories = filesAt other directories := by
  apply List.filter_congr
  intro file hf
  obtain ⟨directory, hd, rfl⟩ := List.mem_map.1 hf
  rw [h directory hd]

theorem upToRoot_congr {files : List Path}
    (h : ∀ file ∈ files, tree.bytes? file = other.bytes? file) :
    upToRoot tree files = upToRoot other files := by
  induction files with
  | nil => rfl
  | cons file files ih =>
    rw [List.forall_mem_cons] at h
    rw [upToRoot_cons, upToRoot_cons, ih h.2, endsSearch, endsSearch, layerAt?_congr h.1]

theorem readLayer_congr {file : Path} (hf : (tree.bytes? file).isSome)
    (h : tree.bytes? file = other.bytes? file) : readLayer tree file = readLayer other file := by
  have hfault : faultAt tree file = faultAt other file := by rw [faultAt, faultAt, h]
  rw [readLayer_eq hf, readLayer_eq (h ▸ hf), layerAt?_congr h, hfault]

theorem readLayers_congr {files : List Path} (hf : ∀ file ∈ files, (tree.bytes? file).isSome)
    (h : ∀ file ∈ files, tree.bytes? file = other.bytes? file) :
    readLayers tree files = readLayers other files := by
  induction files with
  | nil => rfl
  | cons file files ih =>
    rw [List.forall_mem_cons] at hf h
    rw [readLayers, readLayers, readLayer_congr hf.1 h.1, ih hf.2 h.2]

theorem mem_filesAt {directories : List Path} {directory : Path} (hd : directory ∈ directories)
    {layer : Layer} (hl : layerAt? tree (fileIn directory) = some layer) :
    fileIn directory ∈ filesAt tree directories :=
  List.mem_filter.2 ⟨List.mem_map_of_mem hd, isSome_bytes?_of_layerAt? hl⟩

theorem load_of_root {directory root : Path} {near far : List Path}
    (ha : directory.ancestors = near ++ far) (hm : root ∈ filesAt tree near)
    (hr : endsSearch tree root = true) (home : Path) :
    load tree home directory = loadFiles tree (upToRoot tree (filesAt tree near)) := by
  rw [load, discover_eq_visible, visible_of_root ha hm hr]

/-- The settings below a root file are what the files up to it come to. They depend on no file above
it, and on no home directory. -/
theorem load_isolated {directory root : Path} {below above : List Path}
    (ha : directory.ancestors = below ++ root :: above) {layer : Layer}
    (hl : layerAt? tree (fileIn root) = some layer) (hr : layer.root = some true)
    (h : ∀ d ∈ below ++ [root], tree.bytes? (fileIn d) = other.bytes? (fileIn d))
    (home home' : Path) :
    Resolves tree (upToRoot tree (filesAt tree (below ++ [root]))) (load tree home directory) ∧
      load tree home directory = load other home' directory := by
  have hm : root ∈ below ++ [root] := by simp
  have hl' : layerAt? other (fileIn root) = some layer := by rw [← layerAt?_congr (h root hm), hl]
  have hends : endsSearch tree (fileIn root) = true := by simp [endsSearch, hl, hr]
  have hends' : endsSearch other (fileIn root) = true := by simp [endsSearch, hl', hr]
  have hsame : ∀ file ∈ filesAt tree (below ++ [root]), tree.bytes? file = other.bytes? file := by
    intro file hf
    obtain ⟨d, hd, rfl⟩ := List.mem_map.1 (List.mem_filter.1 hf).1
    exact h d hd
  have hsub := upToRoot_sublist tree (filesAt tree (below ++ [root]))
  have hfiles : ∀ file ∈ upToRoot tree (filesAt tree (below ++ [root])),
      (tree.bytes? file).isSome := fun _ hf => isSome_bytes?_of_mem_filesAt (hsub.mem hf)
  rw [← List.singleton_append, ← List.append_assoc] at ha
  rw [load_of_root ha (mem_filesAt hm hl) hends home,
    load_of_root ha (mem_filesAt hm hl') hends' home', ← filesAt_congr h, ← upToRoot_congr hsame]
  refine ⟨resolves_loadFiles hfiles, ?_⟩
  rw [loadFiles, loadFiles, readLayers_congr hfiles fun file hf => hsame file (hsub.mem hf)]

theorem load_isolated_broken_above :
    load ⟨[([['a']], .directory), ([['b'], ['a']], .directory),
        ([fileName, ['b'], ['a']], .file (Text.toBytes "[output]\npretty = false\n".toList)),
        ([fileName, ['a']], .file (Text.toBytes "root = true\n".toList)),
        ([fileName], .file (Text.toBytes "[output\n".toList))]⟩ ⟨[]⟩ ⟨[['b'], ['a']]⟩ =
      load ⟨[([['a']], .directory), ([['b'], ['a']], .directory),
        ([fileName, ['b'], ['a']], .file (Text.toBytes "[output]\npretty = false\n".toList)),
        ([fileName, ['a']], .file (Text.toBytes "root = true\n".toList)), ([['h']], .directory),
        ([fileName, ['h']], .file (Text.toBytes "root = 1\n".toList))]⟩
        ⟨[['h']]⟩ ⟨[['b'], ['a']]⟩ := by
  have ha : Path.ancestors ⟨[['b'], ['a']]⟩ = [⟨[['b'], ['a']]⟩] ++ ⟨[['a']]⟩ :: [⟨[]⟩] := rfl
  have hroot : Layer.ofToml? "root = true\n".toList = some ⟨some true, none, none⟩ := by
    decide +kernel
  refine (load_isolated ha ((layerAt?_of_bytes? rfl).trans hroot) rfl ?_ ⟨[]⟩ ⟨[['h']]⟩).2
  simp only [List.singleton_append, List.forall_mem_cons]
  exact ⟨rfl, rfl, nofun⟩

end FieldQuery.Config
