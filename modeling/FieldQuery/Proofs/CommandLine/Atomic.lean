import FieldQuery.Proofs.CommandLine.Init
import FieldQuery.Proofs.FileTree.Writing
set_option autoImplicit false

/-! What `init` does to the file tree. Either it writes its one file, or it fails and leaves the tree
as it was. Which of the two it does depends on which directories and files there are, and on nothing
that is written in a file. Whether the program runs in the home directory is told by how the two
paths are written. -/

namespace FieldQuery

/-- A file is made or replaced where the path leads, it can be read there, and nothing else in the
tree has changed. -/
def FileTree.Creates (tree : FileTree) (path : Path) (text : Text) (after : FileTree) : Prop :=
  ∃ location, tree.locate path.pieces = .ok location ∧ Writes tree location text after ∧
    after.readText path = .ok text

namespace CommandLine

open FileTree (Writes Creates)

/-- The example for the file that `init` writes: the home directory has one of its own. -/
def initExample (s : Surroundings) (global : Bool) : Text :=
  if initDirectory s global = s.home then Template.globalExample else Template.localExample

def initTemplate (s : Surroundings) (global : Bool) : Text :=
  Template.commentOut (initExample s global)

/-- Outcomes that differ at most in what the files of their trees hold. -/
structure Outcome.Alike (outcome other : Outcome) : Prop where
  status_eq : outcome.status = other.status
  stdout_eq : outcome.stdout = other.stdout
  stderr_eq : outcome.stderr = other.stderr
  tree_alike : outcome.tree.Alike other.tree

/-- The file can be written, and if something stands in its place, then `force` is given. -/
def MayInit (s : Surroundings) (global force : Bool) : Prop :=
  (s.tree.hasEntry (Config.fileIn (initDirectory s global)) = true → force = true) ∧
    ∃ after, s.tree.writeText (Config.fileIn (initDirectory s global)) (initTemplate s global) =
      .ok after

namespace Session

variable (s : Session) (global force : Bool)

theorem initText_eq : s.initText global = initTemplate s.surroundings global := by
  rw [initText, isForHome_eq, initTemplate, initExample, initDirectory]
  by_cases hhome : (global || s.surroundings.home.same s.surroundings.directory) = true
  · rw [if_pos hhome, if_pos hhome, if_pos rfl]
    rfl
  · have hne : s.surroundings.directory ≠ s.surroundings.home := by
      intro heq
      refine hhome ?_
      rw [heq, Path.same, decide_eq_true rfl, Bool.or_true]
    rw [if_neg hhome, if_neg hhome, if_neg hne]
    rfl

theorem init_of_may (h : MayInit s.surroundings global force) :
    (s.init global force).status = 0 ∧
      s.surroundings.tree.writeText (Config.fileIn (initDirectory s.surroundings global))
        (initTemplate s.surroundings global) = .ok (s.init global force).tree := by
  obtain ⟨hforce, after, hw⟩ := h
  have hpass : (s.surroundings.tree.hasEntry (Config.fileIn (initDirectory s.surroundings global)) &&
      !force) = false := by
    cases force with
    | true => rw [Bool.not_true, Bool.and_false]
    | false => simpa using hforce
  rw [init, initTarget_eq, initText_eq]
  simp [hpass, hw, success]

theorem init_of_not_may (h : ¬ MayInit s.surroundings global force) :
    (s.init global force).status = 1 ∧ (s.init global force).tree = s.surroundings.tree := by
  rw [init, initTarget_eq, initText_eq]
  split
  · exact ⟨rfl, rfl⟩
  · next hpass =>
    have hforce : s.surroundings.tree.hasEntry
        (Config.fileIn (initDirectory s.surroundings global)) = true → force = true := by
      intro he
      simpa [he] using hpass
    split
    · exact ⟨rfl, rfl⟩
    · next after hw => exact absurd ⟨hforce, after, hw⟩ h

theorem init_alike {other : Session} (hd : s.surroundings.directory = other.surroundings.directory)
    (hh : s.surroundings.home = other.surroundings.home) (hp : s.preamble = other.preamble)
    (hc : s.color = other.color) (ht : s.surroundings.tree.Alike other.surroundings.tree) :
    (s.init global force).Alike (other.init global force) := by
  have htarget : initDirectory s.surroundings global = initDirectory other.surroundings global := by
    rw [initDirectory, initDirectory, hd, hh]
  have htext : initTemplate s.surroundings global = initTemplate other.surroundings global := by
    rw [initTemplate, initTemplate, initExample, initExample, htarget, hh]
  rw [init, init, initTarget_eq, initTarget_eq, initText_eq, initText_eq, htarget, htext,
    ht.hasEntry_eq]
  split
  · exact ⟨rfl, rfl, by rw [failure, failure, hp], ht⟩
  · rcases ht.writeText_cases (Config.fileIn (initDirectory other.surroundings global))
      (initTemplate other.surroundings global) with ⟨fault, hw, hw'⟩ | ⟨after, after', hw, hw'⟩
    · rw [hw, hw']
      exact ⟨rfl, rfl, by simp only [failure, hp], ht⟩
    · rw [hw, hw']
      obtain ⟨location, hl, hwrites⟩ := FileTree.exists_writes (by decide) (by decide) hw
      obtain ⟨location', hl', hwrites'⟩ := FileTree.exists_writes (by decide) (by decide) hw'
      rw [ht.locate_eq] at hl
      obtain rfl := Except.ok.inj (hl.symm.trans hl')
      exact ⟨rfl, by simp only [success, hc], by simp only [success, hp], hwrites.alike hwrites' ht⟩

end Session

variable {s : Surroundings} {arguments : List Text} {options : Options} {global force : Bool}

theorem run_of_may (hr : Request.ofArguments arguments = .run options (.init global force))
    (h : MayInit s global force) :
    (run s arguments).status = 0 ∧ Creates s.tree (Config.fileIn (initDirectory s global))
      (initTemplate s global) (run s arguments).tree := by
  obtain ⟨hstatus, hw⟩ := (Session.start s options .default).init_of_may global force h
  obtain ⟨location, hl, hwrites⟩ := FileTree.exists_writes (by decide) (by decide) hw
  rw [run_init hr]
  exact ⟨hstatus, location, hl, hwrites, hwrites.readText_eq hl⟩

theorem run_of_not_may (hr : Request.ofArguments arguments = .run options (.init global force))
    (h : ¬ MayInit s global force) :
    (run s arguments).status = 1 ∧ (run s arguments).tree = s.tree := by
  rw [run_init hr]
  exact (Session.start s options .default).init_of_not_may global force h

theorem not_mayInit_of_creates {text : Text} {after : FileTree}
    (h : Creates s.tree (Config.fileIn (initDirectory s global)) text after) :
    ¬ MayInit { s with tree := after } global false := by
  obtain ⟨location, hl, hwrites, -⟩ := h
  intro hmay
  cases hmay.1 (hwrites.hasEntry_eq hl)

theorem MayInit.with_force (h : MayInit s global false) (force : Bool) : MayInit s global force :=
  ⟨fun he => absurd (h.1 he) Bool.false_ne_true, h.2⟩

theorem comments_initTemplate (s : Surroundings) (global : Bool) :
    Template.Comments (initExample s global) (initTemplate s global) := by
  refine Template.comments_commentOut ?_
  rw [initExample]
  split
  · exact Template.commentable_globalExample
  · exact Template.commentable_localExample

/-- Of paths that never lead back, the home directory and the directory that the program runs in are
written alike if and only if they lead to one place. -/
theorem init_of_locate (hh : s.home.Descends) (hd : s.directory.Descends) {home directory : Location}
    (hlh : s.tree.locate s.home.pieces = .ok home)
    (hld : s.tree.locate s.directory.pieces = .ok directory) :
    (initDirectory s global, initExample s global) =
      if global = true ∨ home = directory then (s.home, Template.globalExample)
      else (s.directory, Template.localExample) := by
  obtain rfl := FileTree.eq_names_of_locate hh hlh
  obtain rfl := FileTree.eq_names_of_locate hd hld
  have hsame : (global || s.home.same s.directory) = true ↔
      global = true ∨ s.home.names = s.directory.names := by
    rw [Bool.or_eq_true, Path.same, decide_eq_true_iff]
  rw [initExample, initDirectory, if_congr hsame rfl rfl]
  by_cases hplace : global = true ∨ s.home.names = s.directory.names
  · rw [if_pos hplace, if_pos rfl]
    exact (if_pos hplace).symm
  · have hne : s.directory ≠ s.home := fun heq => hplace (.inr (congrArg Path.names heq.symm))
    rw [if_neg hplace, if_neg hne]
    exact (if_neg hplace).symm

/-- `init` either succeeds and has written the template to its file and nothing anywhere else, or it
fails and has changed nothing. The template has the lines of the example for that file, all of them
commented out. Without force `init` fails if something stands in the way, and always when it has run
before. No file in the tree has a say in what it does. -/
theorem init_atomic (hr : Request.ofArguments arguments = .run options (.init global force)) :
    (MayInit s global force ∧ (run s arguments).status = 0 ∧
        Creates s.tree (Config.fileIn (initDirectory s global)) (initTemplate s global)
          (run s arguments).tree ∨
      ¬ MayInit s global force ∧ (run s arguments).status = 1 ∧
        (run s arguments).tree = s.tree) ∧
    (Template.Comments (initExample s global) (initTemplate s global) ∧
      ∀ line ∈ (initTemplate s global).lines, line = [] ∨ line.head? = some '#') ∧
    (s.home.Descends → s.directory.Descends → ∀ home directory,
      s.tree.locate s.home.pieces = .ok home → s.tree.locate s.directory.pieces = .ok directory →
      (initDirectory s global, initExample s global) =
        if global = true ∨ home = directory then (s.home, Template.globalExample)
        else (s.directory, Template.localExample)) ∧
    (force = false → s.tree.hasEntry (Config.fileIn (initDirectory s global)) = true →
      (run s arguments).status = 1 ∧ (run s arguments).tree = s.tree) ∧
    (∀ again later, Request.ofArguments again = .run later (.init global false) →
      (run { s with tree := (run s arguments).tree } again).status = 1 ∧
        (run { s with tree := (run s arguments).tree } again).tree = (run s arguments).tree) ∧
    ∀ tree, s.tree.Alike tree →
      (run s arguments).Alike (run { s with tree := tree } arguments) := by
  have hcomments := comments_initTemplate s global
  refine ⟨?_, ⟨hcomments, hcomments.empty_or_sign⟩,
    fun hh hd home directory => init_of_locate hh hd, fun hforce he => ?_,
    fun again later hagain => ?_, fun tree ht => ?_⟩
  · by_cases h : MayInit s global force
    · exact .inl ⟨h, run_of_may hr h⟩
    · exact .inr ⟨h, run_of_not_may hr h⟩
  · exact run_of_not_may hr fun h => by simpa [hforce] using h.1 he
  · refine run_of_not_may hagain ?_
    by_cases h : MayInit s global force
    · exact not_mayInit_of_creates (run_of_may hr h).2
    · rw [(run_of_not_may hr h).2]
      exact fun hmay => h (hmay.with_force force)
  · rw [run_init hr, run_init hr]
    exact Session.init_alike _ global force rfl rfl rfl rfl ht

/-- A broken file in the home directory, which is reached by way of another one, is replaced when
that is forced, and stays from then on. -/
theorem init_atomic_over_broken :
    let s : Surroundings :=
      { tree := ⟨[([['h']], .directory), ([['w']], .directory),
          ([Config.fileName, ['h']], .file (Text.toBytes "root = ".toList))]⟩
        directory := ⟨[['w']]⟩
        home := ⟨[['h'], ['.', '.'], ['w']]⟩
        logFilter := none }
    let forced := ["init".toList, "--global".toList, "--force".toList]
    let again := ["init".toList, "--global".toList]
    Request.ofArguments forced = .run ⟨0, false⟩ (.init true true) ∧
      (run s forced).status = 0 ∧
      Creates s.tree (Config.fileIn s.home) Template.forHome (run s forced).tree ∧
      Template.Comments Template.globalExample Template.forHome ∧
      (run { s with tree := (run s forced).tree } again).status = 1 ∧
      (run { s with tree := (run s forced).tree } again).tree = (run s forced).tree := by
  intro s forced again
  have hr : Request.ofArguments forced = .run ⟨0, false⟩ (.init true true) := by decide +kernel
  have hagain : Request.ofArguments again = .run ⟨0, false⟩ (.init true false) := by
    decide +kernel
  obtain ⟨honce, ⟨hcomments, -⟩, -, -, hlater, -⟩ := init_atomic (s := s) hr
  have hmay : MayInit s true true := ⟨fun _ => rfl, _, rfl⟩
  rcases honce with ⟨-, hstatus, hcreates⟩ | ⟨hnot, -⟩
  · exact ⟨hr, hstatus, hcreates, hcomments, hlater again _ hagain⟩
  · exact absurd hmay hnot

end CommandLine

end FieldQuery
