import FieldQuery.Proofs.FileTree
import FieldQuery.Proofs.Settings.Merge
import FieldQuery.Settings.Discovery
import Mathlib.Data.List.Nodup
set_option autoImplicit false

/-! Which files make up the settings of a directory, and what they make of them. The search, the
reading and the merging go over the files one after the other; together they give what the list of
visible files says. -/

namespace FieldQuery.Config

open FieldQuery.Path (Descends names)

def layerAt? (tree : FileTree) (file : Path) : Option Layer :=
  ((tree.bytes? file).bind Text.ofBytes?).bind Layer.ofToml?

/-- What is wrong with a file without a layer: its bytes are no text, or its text is no document. -/
def faultAt (tree : FileTree) (file : Path) : LoadFault :=
  match (tree.bytes? file).bind Text.ofBytes? with
  | none => .unreadable file .notUtf8
  | some _ => .malformed file

def endsSearch (tree : FileTree) (file : Path) : Bool :=
  (layerAt? tree file).any (·.root = some true)

def filesAt (tree : FileTree) (directories : List Path) : List Path :=
  (directories.map fileIn).filter fun file => (tree.bytes? file).isSome

/-- The files in front of the first one that ends the search, and that one. -/
def upToRoot (tree : FileTree) (files : List Path) : List Path :=
  files.takeWhile (!endsSearch tree ·) ++ (files.find? (endsSearch tree)).toList

/-- The settings files of a directory and of those above it, up to the one that ends the search. The
file in the home directory stands behind them if no file ends the search and it is not among them. -/
def visible (tree : FileTree) (home directory : Path) : List Path :=
  let around := filesAt tree directory.ancestors
  upToRoot tree around ++
    if (tree.bytes? (fileIn home)).isSome ∧
        ∀ file ∈ around, endsSearch tree file = false ∧ file.names ≠ (fileIn home).names then
      [fileIn home]
    else []

variable {tree : FileTree}

theorem readLayer_eq {file : Path} (h : (tree.bytes? file).isSome) :
    readLayer tree file = match layerAt? tree file with
      | some layer => .ok layer
      | none => .error (faultAt tree file) := by
  obtain ⟨bytes, hb⟩ := Option.isSome_iff_exists.1 h
  rw [readLayer, FileTree.readText_of_bytes? hb, layerAt?, faultAt, hb, Option.bind_some]
  cases Text.ofBytes? bytes with
  | none => rfl
  | some text => cases hl : Layer.ofToml? text <;> simp [hl]

theorem isSome_bytes?_of_layerAt? {file : Path} {layer : Layer}
    (h : layerAt? tree file = some layer) : (tree.bytes? file).isSome := by
  by_contra hn
  rw [layerAt?, Option.not_isSome_iff_eq_none.1 hn] at h
  cases h

theorem readLayer_of_layerAt? {file : Path} {layer : Layer} (h : layerAt? tree file = some layer) :
    readLayer tree file = .ok layer := by
  rw [readLayer_eq (isSome_bytes?_of_layerAt? h), h]

theorem isRootFile_eq {file : Path} (h : (tree.bytes? file).isSome) :
    isRootFile tree file = endsSearch tree file := by
  rw [isRootFile, readLayer_eq h, endsSearch]
  cases layerAt? tree file <;> rfl

theorem layerAt?_of_bytes? {file : Path} {text : Text} (h : tree.bytes? file = some text.toBytes) :
    layerAt? tree file = Layer.ofToml? text := by
  rw [layerAt?, h, Option.bind_some, Text.ofBytes?_toBytes, Option.bind_some]

theorem filesAt_cons (tree : FileTree) (directory : Path) (directories : List Path) :
    filesAt tree (directory :: directories) =
      if (tree.bytes? (fileIn directory)).isSome then
        fileIn directory :: filesAt tree directories
      else filesAt tree directories := by
  rw [filesAt, List.map_cons, List.filter_cons]
  rfl

theorem isSome_bytes?_of_mem_filesAt {directories : List Path} {file : Path}
    (h : file ∈ filesAt tree directories) : (tree.bytes? file).isSome :=
  (List.mem_filter.1 h).2

theorem upToRoot_cons (tree : FileTree) (file : Path) (files : List Path) :
    upToRoot tree (file :: files) =
      if endsSearch tree file then [file] else file :: upToRoot tree files := by
  rw [upToRoot, List.takeWhile_cons, List.find?_cons]
  cases endsSearch tree file <;> rfl

theorem upToRoot_eq_self {files : List Path} (h : ∀ file ∈ files, endsSearch tree file = false) :
    upToRoot tree files = files := by
  induction files with
  | nil => rfl
  | cons file files ih =>
    rw [List.forall_mem_cons] at h
    rw [upToRoot_cons, h.1, if_neg Bool.false_ne_true, ih h.2]

theorem upToRoot_sublist (tree : FileTree) (files : List Path) :
    (upToRoot tree files).Sublist files := by
  induction files with
  | nil => exact List.Sublist.refl _
  | cons file files ih =>
    rw [upToRoot_cons]
    split
    · exact (List.nil_sublist _).cons_cons file
    · exact ih.cons_cons file

theorem filesIn_eq (tree : FileTree) (directories : List Path) :
    filesIn tree directories =
      (upToRoot tree (filesAt tree directories),
        (filesAt tree directories).any (endsSearch tree)) := by
  induction directories with
  | nil => rfl
  | cons directory directories ih =>
    rw [filesIn, FileTree.isFile_eq_isSome_bytes?, filesAt_cons]
    by_cases hf : (tree.bytes? (fileIn directory)).isSome = true
    · rw [if_pos hf, if_pos hf, isRootFile_eq hf, upToRoot_cons, ih, List.any_cons]
      cases endsSearch tree (fileIn directory) <;> rfl
    · rw [if_neg hf, if_neg hf, ih]

theorem adds_global_iff (tree : FileTree) (home : Path) (files : List Path) :
    (!files.any (endsSearch tree) && (tree.bytes? (fileIn home)).isSome &&
        !(upToRoot tree files).any (isGlobal home)) = true ↔
      (tree.bytes? (fileIn home)).isSome ∧
        ∀ file ∈ files, endsSearch tree file = false ∧ file.names ≠ (fileIn home).names := by
  by_cases hr : ∀ file ∈ files, endsSearch tree file = false
  · rw [upToRoot_eq_self hr]
    simp +contextual [isGlobal, Path.same, hr]
  · have hany : files.any (endsSearch tree) = true := by simpa using hr
    simp only [hany, Bool.not_true, Bool.false_and, Bool.false_eq_true, false_iff, not_and]
    exact fun _ h => hr fun file hf => (h file hf).1

theorem discover_eq_visible (tree : FileTree) (home directory : Path) :
    discover tree home directory = visible tree home directory := by
  simp only [discover, visible, filesIn_eq, FileTree.isFile_eq_isSome_bytes?, adds_global_iff]
  split
  · rfl
  · rw [List.append_nil]

/-- What a list of files comes to: the fault of the first one without a layer, or all of them with
the settings that their layers set first. -/
structure Resolves (tree : FileTree) (files : List Path) (answer : Except LoadFault Config) :
    Prop where
  ok_iff : ∀ config, answer = .ok config ↔
    (∀ file ∈ files, (layerAt? tree file).isSome) ∧
      config = ⟨Layer.firstSet (files.filterMap (layerAt? tree)), files.map Path.toText⟩
  error_iff : ∀ fault, answer = .error fault ↔ ∃ sound file others,
    files = sound ++ file :: others ∧ (∀ file ∈ sound, (layerAt? tree file).isSome) ∧
      layerAt? tree file = none ∧ fault = faultAt tree file

theorem readLayers_of_sound {files : List Path} (h : ∀ file ∈ files, (layerAt? tree file).isSome) :
    ∃ layers, readLayers tree files = .ok layers ∧ layers.map (·.1) = files.map Path.toText ∧
      layers.map (·.2) = files.filterMap (layerAt? tree) := by
  induction files with
  | nil => exact ⟨[], rfl, rfl, rfl⟩
  | cons file files ih =>
    rw [List.forall_mem_cons] at h
    obtain ⟨layer, hl⟩ := Option.isSome_iff_exists.1 h.1
    obtain ⟨layers, hr, hpaths, hlayers⟩ := ih h.2
    refine ⟨(file.toText, layer) :: layers, ?_, ?_, ?_⟩
    · rw [readLayers, readLayer_of_layerAt? hl, hr]
      rfl
    · rw [List.map_cons, List.map_cons, hpaths]
    · rw [List.map_cons, List.filterMap_cons_some hl, hlayers]

theorem readLayers_of_broken {sound others : List Path} {file : Path}
    (hs : ∀ file ∈ sound, (layerAt? tree file).isSome) (hf : (tree.bytes? file).isSome)
    (hn : layerAt? tree file = none) :
    readLayers tree (sound ++ file :: others) = .error (faultAt tree file) := by
  induction sound with
  | nil =>
    rw [List.nil_append, readLayers, readLayer_eq hf, hn]
    rfl
  | cons first sound ih =>
    rw [List.forall_mem_cons] at hs
    obtain ⟨layer, hl⟩ := Option.isSome_iff_exists.1 hs.1
    rw [List.cons_append, readLayers, readLayer_of_layerAt? hl, ih hs.2]
    rfl

theorem exists_first_broken {files : List Path}
    (h : ¬ ∀ file ∈ files, (layerAt? tree file).isSome) : ∃ sound file others,
      files = sound ++ file :: others ∧ (∀ file ∈ sound, (layerAt? tree file).isSome) ∧
        layerAt? tree file = none := by
  have hfind : (files.find? fun file => (layerAt? tree file).isNone).isSome := by
    simpa using h
  obtain ⟨file, hfile⟩ := Option.isSome_iff_exists.1 hfind
  obtain ⟨hn, sound, others, rfl, hs⟩ := List.find?_eq_some_iff_append.1 hfile
  exact ⟨sound, file, others, rfl, by simpa using hs, by simpa using hn⟩

theorem loadFiles_of_sound {files : List Path} (h : ∀ file ∈ files, (layerAt? tree file).isSome) :
    loadFiles tree files =
      .ok ⟨Layer.firstSet (files.filterMap (layerAt? tree)), files.map Path.toText⟩ := by
  obtain ⟨layers, hr, hpaths, hlayers⟩ := readLayers_of_sound h
  rw [loadFiles, hr, ← hlayers, ← hpaths, ← merge_eq]
  rfl

theorem loadFiles_of_broken {sound others : List Path} {file : Path}
    (hs : ∀ file ∈ sound, (layerAt? tree file).isSome) (hf : (tree.bytes? file).isSome)
    (hn : layerAt? tree file = none) :
    loadFiles tree (sound ++ file :: others) = .error (faultAt tree file) := by
  rw [loadFiles, readLayers_of_broken hs hf hn]
  rfl

theorem resolves_loadFiles {files : List Path} (h : ∀ file ∈ files, (tree.bytes? file).isSome) :
    Resolves tree files (loadFiles tree files) := by
  by_cases hs : ∀ file ∈ files, (layerAt? tree file).isSome
  · have hl := loadFiles_of_sound hs
    refine ⟨fun config => ⟨fun hok => ⟨hs, ?_⟩, fun hok => hok.2 ▸ hl⟩, fun fault => ⟨?_, ?_⟩⟩
    · exact (Except.ok.inj (hl.symm.trans hok)).symm
    · rw [hl]
      nofun
    · rintro ⟨sound, file, others, rfl, -, hn, -⟩
      have hsome := hs file (by simp)
      rw [hn] at hsome
      cases hsome
  · obtain ⟨sound, file, others, rfl, hsound, hn⟩ := exists_first_broken hs
    have hl : loadFiles tree (sound ++ file :: others) = .error (faultAt tree file) :=
      loadFiles_of_broken hsound (h file (by simp)) hn
    refine ⟨fun config => ⟨?_, fun hok => absurd hok.1 hs⟩, fun fault => ⟨fun he => ?_, ?_⟩⟩
    · rw [hl]
      nofun
    · exact ⟨sound, file, others, rfl, hsound, hn, (Except.error.inj (hl.symm.trans he)).symm⟩
    · rintro ⟨sound', file', others', hfiles, hsound', hn', rfl⟩
      rw [hfiles] at h ⊢
      exact loadFiles_of_broken hsound' (h file' (by simp)) hn'

theorem bytes?_fileIn {directory : Path} (hd : directory.Descends) :
    tree.bytes? (fileIn directory) = tree.bytesAt? (fileName :: directory.names) :=
  FileTree.bytes?_join hd (by decide) (by decide)

theorem names_fileIn (directory : Path) : (fileIn directory).names = fileName :: directory.names :=
  Path.names_join directory (by decide)

theorem names_filesAt {directories : List Path} (hd : ∀ d ∈ directories, Descends d) :
    (filesAt tree directories).map names =
      ((directories.map names).map (fileName :: ·)).filter fun l => (tree.bytesAt? l).isSome := by
  induction directories with
  | nil => rfl
  | cons directory directories ih =>
    rw [List.forall_mem_cons] at hd
    rw [filesAt_cons, bytes?_fileIn hd.1, List.map_cons, List.map_cons, List.filter_cons, ← ih hd.2]
    split
    · rw [List.map_cons, names_fileIn]
    · rfl

theorem nodup_names_filesAt (tree : FileTree) (directory : Path) :
    ((filesAt tree directory.ancestors).map names).Nodup := by
  have hall : ((directory.ancestors.map fileIn).map names).Nodup := by
    rw [List.map_map]
    have hf : names ∘ fileIn = (fileName :: ·) ∘ names := funext names_fileIn
    rw [hf, ← List.map_map]
    exact (Path.nodup_names_ancestors directory).map List.cons_injective
  exact hall.sublist (List.filter_sublist.map names)

theorem nodup_names_visible (tree : FileTree) (home directory : Path) :
    ((visible tree home directory).map names).Nodup := by
  have haround := (nodup_names_filesAt tree directory).sublist
    ((upToRoot_sublist tree _).map names)
  rw [visible]
  split
  · next hg =>
    rw [List.map_append, List.nodup_append]
    refine ⟨haround, List.nodup_singleton _, ?_⟩
    rintro _ hfile _ hhome
    obtain ⟨file, hmem, rfl⟩ := List.mem_map.1 hfile
    rw [List.map_singleton, List.mem_singleton] at hhome
    rw [hhome]
    exact (hg.2 file ((upToRoot_sublist tree _).mem hmem)).2
  · rwa [List.append_nil]

theorem isSome_bytes?_of_mem_visible {home directory file : Path}
    (h : file ∈ visible tree home directory) : (tree.bytes? file).isSome := by
  rw [visible] at h
  rcases List.mem_append.1 h with h | h
  · exact isSome_bytes?_of_mem_filesAt ((upToRoot_sublist tree _).mem h)
  · split at h
    · next hg => exact List.mem_singleton.1 h ▸ hg.1
    · cases h

/-- Loading the settings of a directory comes to what its visible files come to. No file is among
them twice, and the files around the directory are just those that stand at its own location and at
the ones above it. -/
theorem load_resolves {tree : FileTree} {home directory : Path} (hd : directory.Descends) :
    Resolves tree (visible tree home directory) (load tree home directory) ∧
      ((visible tree home directory).map names).Nodup ∧
      (filesAt tree directory.ancestors).map names =
        (directory.names.tails.map (fileName :: ·)).filter fun l => (tree.bytesAt? l).isSome := by
  refine ⟨?_, nodup_names_visible tree home directory, ?_⟩
  · rw [load, discover_eq_visible]
    exact resolves_loadFiles fun file => isSome_bytes?_of_mem_visible
  · rw [names_filesAt fun d => hd.ancestor, Path.names_ancestors]

theorem load_resolves_home_between :
    Descends ⟨[['w'], ['h']]⟩ ∧
      load ⟨[([['h']], .directory), ([['w'], ['h']], .directory),
          ([fileName, ['w'], ['h']], .file (Text.toBytes "[output]\npretty = false\n".toList)),
          ([fileName, ['h']], .file (Text.toBytes
            "[output]\npretty = true\n[log]\nlevel = \"info\"\n".toList)),
          ([fileName], .file (Text.toBytes "root = true\n[output]\ncolor = false\n".toList))]⟩
          ⟨[['h']]⟩ ⟨[['w'], ['h']]⟩ =
        .ok ⟨⟨.tree, false, false, true, "info".toList⟩,
          ["/h/w/.qs.toml".toList, "/h/.qs.toml".toList, "/.qs.toml".toList]⟩ := by
  have hd : Descends ⟨[['w'], ['h']]⟩ := by decide
  refine ⟨hd, ?_⟩
  generalize htree : FileTree.mk _ = tree
  have hw : layerAt? tree ⟨[fileName, ['w'], ['h']]⟩ =
      some ⟨none, some ⟨none, some false, none⟩, none⟩ := by
    rw [layerAt?_of_bytes? (by rw [← htree]; rfl)]
    decide +kernel
  have hh : layerAt? tree ⟨[fileName, ['h']]⟩ =
      some ⟨none, some ⟨none, some true, none⟩, some ⟨some "info".toList⟩⟩ := by
    rw [layerAt?_of_bytes? (by rw [← htree]; rfl)]
    decide +kernel
  have hr : layerAt? tree ⟨[fileName]⟩ =
      some ⟨some true, some ⟨none, none, some false⟩, none⟩ := by
    rw [layerAt?_of_bytes? (by rw [← htree]; rfl)]
    decide +kernel
  have haround : filesAt tree (Path.ancestors ⟨[['w'], ['h']]⟩) =
      [⟨[fileName, ['w'], ['h']]⟩, ⟨[fileName, ['h']]⟩, ⟨[fileName]⟩] := by
    rw [← htree]
    rfl
  have hvisible : visible tree ⟨[['h']]⟩ ⟨[['w'], ['h']]⟩ =
      [⟨[fileName, ['w'], ['h']]⟩, ⟨[fileName, ['h']]⟩, ⟨[fileName]⟩] := by
    simp [visible, haround, upToRoot, endsSearch, hw, hh, hr]
  rw [(load_resolves hd).1.ok_iff, hvisible]
  refine ⟨by simp [hw, hh, hr], ?_⟩
  simp only [List.filterMap_cons, List.filterMap_nil, hw, hh, hr]
  decide +kernel

end FieldQuery.Config
