import FieldQuery.Proofs.Settings.Isolation
set_option autoImplicit false

/-! The place of the global file, the one in the home directory. The search looks there last of all,
unless it came through the home directory before: then the file keeps the place at which it was
found, and files above the home directory come behind it. -/

namespace FieldQuery

namespace Path

def outside (path : Path) : List Location := path.names.tails.tail

theorem eq_tails_of_append {α : Type} {as a : List α} {front back : List (List α)}
    (h : as.tails = front ++ a :: back) : a.tails = a :: back := by
  induction front generalizing as with
  | nil =>
    cases as with
    | nil =>
      obtain ⟨rfl, rfl⟩ := List.cons.inj h
      rfl
    | cons b as =>
      rw [List.tails_cons] at h
      obtain ⟨rfl, rfl⟩ := List.cons.inj h
      rfl
  | cons first front ih =>
    cases as with
    | nil => simp at h
    | cons b as =>
      rw [List.tails_cons] at h
      exact ih (List.cons.inj h).2

theorem exists_ancestors_split {path home : Path} (h : home.names <:+ path.names) :
    ∃ below around above, path.ancestors = below ++ around :: above ∧ around.names = home.names ∧
      above.map names = home.outside := by
  have hm : home.names ∈ path.ancestors.map names := by
    rw [names_ancestors]
    exact (List.mem_tails _ _).2 h
  obtain ⟨around, hmem, hnames⟩ := List.mem_map.1 hm
  obtain ⟨below, above, hsplit⟩ := List.append_of_mem hmem
  refine ⟨below, around, above, hsplit, hnames, ?_⟩
  have htails := names_ancestors path
  rw [hsplit, List.map_append, List.map_cons, hnames] at htails
  rw [outside, eq_tails_of_append htails.symm]
  rfl

theorem descends_of_suffix {path home : Path} (hd : path.Descends)
    (h : home.names <:+ path.names) : home.Descends := by
  intro hback
  have hnames : ['.', '.'] ∈ home.names := List.mem_filter.2 ⟨hback, by decide⟩
  exact hd (List.mem_filter.1 (h.mem hnames)).1

end Path

namespace Config

open FieldQuery.Path (Descends names outside)

variable {tree : FileTree} {home directory file : Path}

theorem isGlobal_iff : isGlobal home file = true ↔ file.names = (fileIn home).names := by
  simp [isGlobal, Path.same]

theorem upToRoot_append_of_sound {files others : List Path}
    (h : ∀ file ∈ files, endsSearch tree file = false) :
    upToRoot tree (files ++ others) = files ++ upToRoot tree others := by
  induction files with
  | nil => rfl
  | cons first files ih =>
    rw [List.forall_mem_cons] at h
    rw [List.cons_append, upToRoot_cons, h.1, if_neg Bool.false_ne_true, ih h.2, List.cons_append]

theorem upToRoot_eq_nil_iff {files : List Path} : upToRoot tree files = [] ↔ files = [] := by
  cases files with
  | nil => exact Iff.rfl
  | cons first files =>
    rw [upToRoot_cons]
    split <;> simp

theorem nodup_visible (tree : FileTree) (home directory : Path) :
    (visible tree home directory).Nodup :=
  .of_map _ (nodup_names_visible tree home directory)

theorem mem_visible (h : file ∈ visible tree home directory) :
    (file ∈ upToRoot tree (filesAt tree directory.ancestors)) ∨
      file = fileIn home ∧ (tree.bytes? (fileIn home)).isSome ∧
        (∀ other ∈ filesAt tree directory.ancestors, other.names ≠ (fileIn home).names) ∧
        visible tree home directory = filesAt tree directory.ancestors ++ [fileIn home] := by
  by_cases hg : (tree.bytes? (fileIn home)).isSome ∧
      ∀ other ∈ filesAt tree directory.ancestors,
        endsSearch tree other = false ∧ other.names ≠ (fileIn home).names
  · have hv : visible tree home directory = filesAt tree directory.ancestors ++ [fileIn home] := by
      rw [visible, if_pos hg, upToRoot_eq_self fun other ho => (hg.2 other ho).1]
    rw [hv] at h
    rcases List.mem_append.1 h with h | h
    · left
      rwa [upToRoot_eq_self fun other ho => (hg.2 other ho).1]
    · exact .inr ⟨List.mem_singleton.1 h, hg.1, fun other ho => (hg.2 other ho).2, hv⟩
  · rw [visible, if_neg hg, List.append_nil] at h
    exact .inl h

/-- If the search goes through the home directory, the global file is the one that it finds there. -/
theorem found_around {below above : List Path} {around : Path} (hd : directory.Descends)
    (ha : directory.ancestors = below ++ around :: above) (hn : around.names = home.names)
    (hm : file ∈ visible tree home directory) (hg : file.names = (fileIn home).names) :
    file = fileIn around ∧ file ∈ upToRoot tree (filesAt tree directory.ancestors) := by
  have haround : around ∈ directory.ancestors := by simp [ha]
  rcases mem_visible hm with h | ⟨rfl, hb, hne, -⟩
  · obtain ⟨d, hmem, rfl⟩ := List.mem_map.1 (List.mem_filter.1 ((upToRoot_sublist tree _).mem h)).1
    rw [names_fileIn, names_fileIn] at hg
    have hnames : d.names = around.names := (List.cons.inj hg).2.trans hn.symm
    obtain rfl := List.inj_on_of_nodup_map (Path.nodup_names_ancestors directory) hmem haround hnames
    exact ⟨rfl, h⟩
  · -- The file would have been found in the same place before.
    have hhome : home.Descends := by
      refine Path.descends_of_suffix hd ?_
      have hsuffix : around.names ∈ directory.names.tails := by
        rw [← Path.names_ancestors]
        exact List.mem_map_of_mem haround
      rw [← hn]
      exact (List.mem_tails _ _).1 hsuffix
    rw [bytes?_fileIn hhome, ← hn, ← bytes?_fileIn (hd.ancestor haround)] at hb
    have hfound : fileIn around ∈ filesAt tree directory.ancestors :=
      List.mem_filter.2 ⟨List.mem_map_of_mem haround, hb⟩
    exact absurd (by rw [names_fileIn, names_fileIn, hn]) (hne (fileIn around) hfound)

theorem visible_split {below above : List Path} {around : Path} (hd : directory.Descends)
    (ha : directory.ancestors = below ++ around :: above) (hn : around.names = home.names)
    (hm : file ∈ visible tree home directory) (hg : file.names = (fileIn home).names) :
    visible tree home directory = filesAt tree below ++
      file :: if endsSearch tree file then [] else upToRoot tree (filesAt tree above) := by
  obtain ⟨rfl, hup⟩ := found_around hd ha hn hm hg
  have hfound := (upToRoot_sublist tree _).mem hup
  have hv : visible tree home directory = upToRoot tree (filesAt tree directory.ancestors) := by
    rw [visible, if_neg fun h => (h.2 _ hfound).2 hg, List.append_nil]
  have hfiles : filesAt tree directory.ancestors =
      filesAt tree below ++ fileIn around :: filesAt tree above := by
    rw [ha, filesAt_append, filesAt_cons, if_pos (isSome_bytes?_of_mem_filesAt hfound)]
  have hnodup : (filesAt tree directory.ancestors).Nodup :=
    .of_map _ (nodup_names_filesAt tree directory)
  rw [hfiles] at hup hnodup hv
  have hsound : ∀ other ∈ filesAt tree below, endsSearch tree other = false := by
    intro other ho
    by_contra hends
    rw [Bool.not_eq_false] at hends
    rw [upToRoot_append ho hends] at hup
    exact List.disjoint_of_nodup_append hnodup ((upToRoot_sublist tree _).mem hup)
      (List.mem_cons_self ..)
  rw [hv, upToRoot_append_of_sound hsound, upToRoot_cons]
  split <;> rfl

theorem visible_apart (hs : ¬ home.names <:+ directory.names)
    (hm : file ∈ visible tree home directory) (hg : file.names = (fileIn home).names) :
    ∃ nearer, visible tree home directory = nearer ++ [file] := by
  rcases mem_visible hm with h | ⟨rfl, -, -, hv⟩
  · obtain ⟨d, hmem, rfl⟩ := List.mem_map.1 (List.mem_filter.1 ((upToRoot_sublist tree _).mem h)).1
    rw [names_fileIn, names_fileIn] at hg
    have htails : d.names ∈ directory.names.tails := by
      rw [← Path.names_ancestors]
      exact List.mem_map_of_mem hmem
    rw [(List.cons.inj hg).2] at htails
    exact absurd ((List.mem_tails _ _).1 htails) hs
  · exact ⟨_, hv⟩

def NoneOutside (tree : FileTree) (home : Path) : Prop :=
  ∀ location ∈ home.outside, tree.bytesAt? (fileName :: location) = none

theorem filesAt_eq_nil_iff {above : List Path} (hd : ∀ d ∈ above, Descends d)
    (ha : above.map names = home.outside) : filesAt tree above = [] ↔ NoneOutside tree home := by
  rw [← List.map_eq_nil_iff (f := names), names_filesAt hd, ha, List.filter_eq_nil_iff,
    List.forall_mem_map]
  simp [NoneOutside]

theorem exists_place (hd : directory.Descends) (hm : file ∈ visible tree home directory)
    (hg : file.names = (fileIn home).names) :
    ∃ nearer farther, visible tree home directory = nearer ++ file :: farther ∧
      (∀ other ∈ farther, ∃ location ∈ home.outside, other.names = fileName :: location) ∧
      (farther = [] ↔ ¬ home.names <:+ directory.names ∨ endsSearch tree file = true ∨
        NoneOutside tree home) := by
  by_cases hs : home.names <:+ directory.names
  · obtain ⟨below, around, above, ha, hn, habove⟩ := Path.exists_ancestors_split hs
    have hdabove : ∀ d ∈ above, Descends d := fun d hmem => hd.ancestor (by simp [ha, hmem])
    refine ⟨_, _, visible_split hd ha hn hm hg, fun other ho => ?_, ?_⟩
    · split at ho
      · cases ho
      · have hmem := (List.mem_filter.1 ((upToRoot_sublist tree _).mem ho)).1
        obtain ⟨d, hd', rfl⟩ := List.mem_map.1 hmem
        rw [← habove]
        exact ⟨d.names, List.mem_map_of_mem hd', names_fileIn d⟩
    · rw [← filesAt_eq_nil_iff hdabove habove]
      by_cases hends : endsSearch tree file = true <;> simp [hs, hends, upToRoot_eq_nil_iff]
  · obtain ⟨nearer, hv⟩ := visible_apart hs hm hg
    exact ⟨nearer, [], hv, nofun, iff_of_true rfl (.inl hs)⟩

theorem getLast?_eq_iff_of_nodup {α : Type} {a : α} {front back : List α}
    (h : (front ++ a :: back).Nodup) : (front ++ a :: back).getLast? = some a ↔ back = [] := by
  rw [List.getLast?_append_of_ne_nil front (List.cons_ne_nil a back)]
  cases back with
  | nil => simp
  | cons b back =>
    have hne : a ∉ b :: back := (List.nodup_cons.1 h.of_append_right).1
    rw [List.getLast?_cons_cons]
    simp only [List.cons_ne_nil, iff_false]
    exact fun hlast => hne (List.mem_of_getLast? hlast)

/-- Of files that load, the nearer ones are laid over the file between, and that file over the
farther ones. -/
theorem settings_of_load {nearer farther : List Path} {config : Config}
    (hv : visible tree home directory = nearer ++ file :: farther)
    (hl : load tree home directory = .ok config) : ∃ layer, layerAt? tree file = some layer ∧
      config.settings = (nearer.filterMap (layerAt? tree)).foldr Layer.onto
        (layer.onto (Layer.firstSet (farther.filterMap (layerAt? tree)))) := by
  have hr : Resolves tree (visible tree home directory)
      (loadFiles tree (visible tree home directory)) :=
    resolves_loadFiles fun _ => isSome_bytes?_of_mem_visible
  rw [← discover_eq_visible, ← load] at hr
  obtain ⟨hsome, rfl⟩ := (hr.ok_iff config).1 hl
  rw [discover_eq_visible, hv] at hsome ⊢
  obtain ⟨layer, hlayer⟩ := Option.isSome_iff_exists.1 (hsome file (by simp))
  refine ⟨layer, hlayer, ?_⟩
  rw [List.filterMap_append, List.filterMap_cons_some hlayer, ← Layer.foldr_onto_default,
    List.foldr_append, List.foldr_cons, Layer.foldr_onto_default]

/-- The global file comes last if the home directory is not around the other one, if the file ends
the search itself, or if no file stands above the home directory, and only then. What comes behind
it stands above the home directory, and its settings are laid over what that file sets. -/
theorem global_last_iff (hd : directory.Descends) (hm : file ∈ discover tree home directory)
    (hg : isGlobal home file = true) :
    ((discover tree home directory).getLast? = some file ↔
      ¬ home.names <:+ directory.names ∨ endsSearch tree file = true ∨ NoneOutside tree home) ∧
    ∃ nearer farther, discover tree home directory = nearer ++ file :: farther ∧
      (∀ other ∈ farther, ∃ location ∈ home.outside, other.names = fileName :: location) ∧
      ∀ config, load tree home directory = .ok config → ∃ layer, layerAt? tree file = some layer ∧
        config.settings = (nearer.filterMap (layerAt? tree)).foldr Layer.onto
          (layer.onto (Layer.firstSet (farther.filterMap (layerAt? tree)))) := by
  rw [discover_eq_visible] at hm ⊢
  obtain ⟨nearer, farther, hv, hfar, hlast⟩ := exists_place hd hm (isGlobal_iff.1 hg)
  refine ⟨?_, nearer, farther, hv, hfar, fun config => settings_of_load hv⟩
  have hnodup := nodup_visible tree home directory
  rw [hv] at hnodup ⊢
  rw [getLast?_eq_iff_of_nodup hnodup, hlast]

theorem global_last_iff_ends_search :
    Descends ⟨[['w'], ['h']]⟩ ∧ isGlobal ⟨[['h']]⟩ ⟨[fileName, ['h']]⟩ = true ∧
      (discover ⟨[([['h']], .directory), ([['w'], ['h']], .directory),
        ([fileName, ['w'], ['h']], .file (Text.toBytes "[log]\nlevel = \"debug\"\n".toList)),
        ([fileName, ['h']], .file (Text.toBytes "root = true\n".toList)),
        ([fileName], .file (Text.toBytes "[log]\nlevel = \"info\"\n".toList))]⟩
        ⟨[['h']]⟩ ⟨[['w'], ['h']]⟩).getLast? = some ⟨[fileName, ['h']]⟩ := by
  have hd : Descends ⟨[['w'], ['h']]⟩ := by decide
  have hg : isGlobal ⟨[['h']]⟩ ⟨[fileName, ['h']]⟩ = true := by decide
  refine ⟨hd, hg, ?_⟩
  generalize htree : FileTree.mk _ = tree
  have hw : layerAt? tree ⟨[fileName, ['w'], ['h']]⟩ =
      some ⟨none, none, some ⟨some "debug".toList⟩⟩ := by
    rw [layerAt?_of_bytes? (by rw [← htree]; rfl)]
    decide +kernel
  have hh : layerAt? tree ⟨[fileName, ['h']]⟩ = some ⟨some true, none, none⟩ := by
    rw [layerAt?_of_bytes? (by rw [← htree]; rfl)]
    decide +kernel
  have haround : filesAt tree (Path.ancestors ⟨[['w'], ['h']]⟩) =
      [⟨[fileName, ['w'], ['h']]⟩, ⟨[fileName, ['h']]⟩, ⟨[fileName]⟩] := by
    rw [← htree]
    rfl
  have hends : endsSearch tree ⟨[fileName, ['h']]⟩ = true := by simp [endsSearch, hh]
  have hm : ⟨[fileName, ['h']]⟩ ∈ discover tree ⟨[['h']]⟩ ⟨[['w'], ['h']]⟩ := by
    rw [discover_eq_visible, visible, haround]
    exact List.mem_append_left _ (by simp [upToRoot, endsSearch, hw, hh])
  exact (global_last_iff hd hm hg).1.2 (.inr (.inl hends))

/-- A file above the home directory is found behind the global one, which overrides it. -/
theorem global_not_last_below_home :
    Descends ⟨[['w'], ['h']]⟩ ∧ isGlobal ⟨[['h']]⟩ ⟨[fileName, ['h']]⟩ = true ∧
      discover ⟨[([['h']], .directory), ([['w'], ['h']], .directory),
        ([fileName, ['h']], .file (Text.toBytes "[log]\nlevel = \"info\"\n".toList)),
        ([fileName], .file (Text.toBytes "[log]\nlevel = \"debug\"\n".toList))]⟩
        ⟨[['h']]⟩ ⟨[['w'], ['h']]⟩ = [⟨[fileName, ['h']]⟩, ⟨[fileName]⟩] ∧
      load ⟨[([['h']], .directory), ([['w'], ['h']], .directory),
        ([fileName, ['h']], .file (Text.toBytes "[log]\nlevel = \"info\"\n".toList)),
        ([fileName], .file (Text.toBytes "[log]\nlevel = \"debug\"\n".toList))]⟩
        ⟨[['h']]⟩ ⟨[['w'], ['h']]⟩ =
          .ok ⟨⟨.tree, true, true, false, "info".toList⟩,
            ["/h/.qs.toml".toList, "/.qs.toml".toList]⟩ := by
  have hg : isGlobal ⟨[['h']]⟩ ⟨[fileName, ['h']]⟩ = true := by decide
  refine ⟨by decide, hg, ?_⟩
  generalize htree : FileTree.mk _ = tree
  have hh : layerAt? tree ⟨[fileName, ['h']]⟩ =
      some ⟨none, none, some ⟨some "info".toList⟩⟩ := by
    rw [layerAt?_of_bytes? (by rw [← htree]; rfl)]
    decide +kernel
  have hr : layerAt? tree ⟨[fileName]⟩ = some ⟨none, none, some ⟨some "debug".toList⟩⟩ := by
    rw [layerAt?_of_bytes? (by rw [← htree]; rfl)]
    decide +kernel
  have haround : filesAt tree (Path.ancestors ⟨[['w'], ['h']]⟩) =
      [⟨[fileName, ['h']]⟩, ⟨[fileName]⟩] := by
    rw [← htree]
    rfl
  have hv : discover tree ⟨[['h']]⟩ ⟨[['w'], ['h']]⟩ = [⟨[fileName, ['h']]⟩, ⟨[fileName]⟩] := by
    rw [discover_eq_visible]
    simp [visible, haround, upToRoot, endsSearch, hh, hr, isGlobal_iff.1 hg]
  refine ⟨hv, ?_⟩
  rw [load, hv, loadFiles_of_sound (by simp [hh, hr])]
  simp only [List.filterMap_cons, List.filterMap_nil, hh, hr]
  decide +kernel

end Config

end FieldQuery
