import FieldQuery.CommandLine.Run
import FieldQuery.Proofs.Settings.Addition
import FieldQuery.Proofs.Settings.Template
set_option autoImplicit false

namespace FieldQuery.CommandLine

open FieldQuery.Path (Descends)

/-- The directory whose settings file `init` writes: the home directory if it is asked for, and also
if the program runs there. -/
def initDirectory (s : Surroundings) (global : Bool) : Path :=
  if global || s.home.same s.directory then s.home else s.directory

namespace Session

variable (s : Session) (global : Bool)

theorem isForHome_eq :
    s.isForHome global = (global || s.surroundings.home.same s.surroundings.directory) := by
  have hname : Path.isBlank Config.fileName = false := by decide
  obtain ⟨parent, hp, hn⟩ := Path.exists_parent_join s.surroundings.home hname
  rw [isForHome, Config.fileIn, hp, Option.any_some, Path.same, hn, Path.same]

theorem initTarget_eq :
    s.initTarget global = Config.fileIn (initDirectory s.surroundings global) := by
  rw [initTarget, isForHome_eq, initDirectory]

theorem ofToml?_initText : Layer.ofToml? (s.initText global) = some Config.silent := by
  rw [initText]
  split
  · exact Template.ofToml?_forHome
  · exact Template.ofToml?_forDirectory

theorem init_of_absent {after : FileTree} (force : Bool)
    (ha : s.surroundings.tree.hasEntry (s.initTarget global) = false)
    (hw : s.surroundings.tree.writeText (s.initTarget global) (s.initText global) = .ok after) :
    (s.init global force).status = 0 ∧ (s.init global force).tree = after := by
  simp [init, ha, hw, success]

end Session

theorem run_init {s : Surroundings} {arguments : List Text} {options : Options}
    {global force : Bool}
    (hr : Request.ofArguments arguments = .run options (.init global force)) :
    run s arguments = (Session.start s options .default).init global force := by
  rw [run, hr]
  rfl

/-- If the file that `init` writes is not there and can be written, then `init` writes it, and
afterwards the settings of every directory are what they were. -/
theorem load_after_init {s : Surroundings} {arguments : List Text} {options : Options}
    {global force : Bool}
    (hr : Request.ofArguments arguments = .run options (.init global force))
    (hd : s.directory.Descends) (hh : s.home.Descends)
    (ha : s.tree.hasEntry (Config.fileIn (initDirectory s global)) = false)
    {text : Text} {written : FileTree}
    (hw : s.tree.writeText (Config.fileIn (initDirectory s global)) text = .ok written) :
    (run s arguments).status = 0 ∧
      (run s arguments).tree.isFile (Config.fileIn (initDirectory s global)) = true ∧
      ∀ d : Path, d.Descends → Config.Undisturbed (initDirectory s global)
        (Config.load s.tree s.home d) (Config.load (run s arguments).tree s.home d) := by
  have hdir : (initDirectory s global).Descends := by
    rw [initDirectory]
    split <;> assumption
  let session := Session.start s options .default
  obtain ⟨after, hw⟩ := FileTree.exists_writeText hw (session.initText global)
  have hadds := Config.adds_of_writeText hdir ha hw (session.ofToml?_initText global)
  have htarget : session.initTarget global = Config.fileIn (initDirectory s global) :=
    session.initTarget_eq global
  rw [← htarget] at ha hw
  obtain ⟨hstatus, htree⟩ := session.init_of_absent global force ha hw
  rw [run_init hr, htree]
  exact ⟨hstatus, hadds.isFile hdir, fun d => hadds.load_undisturbed hh⟩

theorem load_after_init_below_home :
    let s : Surroundings :=
      { tree := ⟨[([['h']], .directory), ([['w'], ['h']], .directory),
          ([['x'], ['w'], ['h']], .directory),
          ([Config.fileName, ['x'], ['w'], ['h']],
            .file (Text.toBytes "[output]\npretty = false\n".toList)),
          ([Config.fileName, ['h']], .file (Text.toBytes "root = true\n".toList))]⟩
        directory := ⟨[['w'], ['h']]⟩
        home := ⟨[['h']]⟩
        logFilter := none }
    (run s ["init".toList]).status = 0 ∧
      Config.Undisturbed s.directory (Config.load s.tree s.home ⟨[['x'], ['w'], ['h']]⟩)
        (Config.load (run s ["init".toList]).tree s.home ⟨[['x'], ['w'], ['h']]⟩) := by
  intro s
  have hr : Request.ofArguments ["init".toList] = .run ⟨0, false⟩ (.init false false) := by
    decide +kernel
  have hw : s.tree.writeText (Config.fileIn (initDirectory s false)) [] = .ok
      (s.tree.insert (Config.fileIn s.directory).pieces (.file (Text.toBytes []))) := by
    rfl
  have hinit := load_after_init hr (by decide) (by decide) rfl hw
  exact ⟨hinit.1, hinit.2.2 _ (by decide)⟩

end FieldQuery.CommandLine
