import FieldQuery.Proofs.Settings.Merge
import FieldQuery.Proofs.Toml.Document
set_option autoImplicit false

namespace FieldQuery.Settings

open Toml (Value Entries)

def entryLine (key value : Text) : Text := key ++ ' ' :: '=' :: ' ' :: (value ++ ['\n'])

def headerLine (key : Text) : Text := '[' :: (key ++ [']', '\n'])

theorem toToml_eq (s : Settings) : s.toToml =
    headerLine "output".toList ++ (entryLine "format".toList (Toml.writeString s.format.name) ++
      (entryLine "pretty".toList (boolText s.pretty) ++
        entryLine "color".toList (boolText s.color))) ++
      ['\n'] ++
    (headerLine "log".toList ++ entryLine "level".toList (Toml.writeString s.level)) := by
  have hformat : "[output]\nformat = ".toList =
      headerLine "output".toList ++ ("format".toList ++ [' ', '=', ' ']) := by rfl
  have hpretty : "\npretty = ".toList = '\n' :: ("pretty".toList ++ [' ', '=', ' ']) := by rfl
  have hcolor : "\ncolor = ".toList = '\n' :: ("color".toList ++ [' ', '=', ' ']) := by rfl
  have hlevel : "\n\n[log]\nlevel = ".toList =
      '\n' :: '\n' :: (headerLine "log".toList ++ ("level".toList ++ [' ', '=', ' '])) := by rfl
  unfold toToml
  simp only [hformat, hpretty, hcolor, hlevel, entryLine, List.append_assoc, List.cons_append,
    List.nil_append]

theorem leads_string {r : Toml.Reading} {key : Text} (hkey : Toml.BareKey key)
    (hnew : r.entries.get? key = none) (text : Text) :
    r.Leads (entryLine key (Toml.writeString text))
      { r with entries := r.entries.set key (.string text) } :=
  .entry hkey hnew (Toml.skipBlanks_writeString text) (Toml.value?_writeString text)

theorem leads_boolean {r : Toml.Reading} {key : Text} (hkey : Toml.BareKey key)
    (hnew : r.entries.get? key = none) (b : Bool) :
    r.Leads (entryLine key (boolText b)) { r with entries := r.entries.set key (.boolean b) } :=
  .entry hkey hnew (fun _ => by cases b <;> rfl) (fun _ => by cases b <;> rfl)

def outputEntries (s : Settings) : Entries :=
  [("format".toList, .string s.format.name), ("pretty".toList, .boolean s.pretty),
    ("color".toList, .boolean s.color)]

def logEntries (s : Settings) : Entries := [("level".toList, .string s.level)]

theorem document?_toToml (s : Settings) : Toml.document? s.toToml =
    some [("output".toList, .table .header s.outputEntries),
      ("log".toList, .table .header s.logEntries)] := by
  have houtput : Toml.Reading.Leads ⟨[], none, []⟩ (headerLine "output".toList)
      ⟨[], some ⟨[], "output".toList, false⟩, []⟩ := .header (by decide) rfl
  have hentries : Toml.Reading.Leads ⟨[], some ⟨[], "output".toList, false⟩, []⟩
      (entryLine "format".toList (Toml.writeString s.format.name) ++
        (entryLine "pretty".toList (boolText s.pretty) ++
          entryLine "color".toList (boolText s.color)))
      ⟨[], some ⟨[], "output".toList, false⟩, s.outputEntries⟩ :=
    (leads_string (by decide) rfl s.format.name).append
      ((leads_boolean (by decide) rfl s.pretty).append (leads_boolean (by decide) rfl s.color))
  have hlog : Toml.Reading.Leads ⟨[], some ⟨[], "output".toList, false⟩, s.outputEntries⟩
      (headerLine "log".toList ++ entryLine "level".toList (Toml.writeString s.level))
      ⟨[("output".toList, .table .header s.outputEntries)], some ⟨[], "log".toList, false⟩,
        s.logEntries⟩ :=
    (Toml.Reading.Leads.header (by decide) rfl).append (leads_string (by decide) rfl s.level)
  have hall := ((houtput.append hentries).append (.empty _)).append hlog
  rw [toToml_eq, Toml.document?_of_leads hall (by simp [headerLine])]
  rfl

def layer (s : Settings) : Layer where
  root := none
  output := some ⟨some s.format, some s.pretty, some s.color⟩
  log := some ⟨some s.level⟩

theorem ofToml?_toToml (s : Settings) : Layer.ofToml? s.toToml = some s.layer := by
  rw [Layer.ofToml?, document?_toToml]
  obtain ⟨format, pretty, color, prettyExplicit, level⟩ := s
  cases format <;> rfl

/-- Settings are read back from what is written of them, whatever their level is. Their file alone
makes up the same settings, up to the note that `pretty` is set, and they are written alike. -/
theorem toToml_read_back (s : Settings) (path : Text) :
    Layer.ofToml? s.toToml =
        some ⟨none, some ⟨some s.format, some s.pretty, some s.color⟩, some ⟨some s.level⟩⟩ ∧
      Config.merge [(path, s.layer)] = ⟨{ s with prettyExplicit := true }, [path]⟩ ∧
      (Config.merge [(path, s.layer)]).settings.toToml = s.toToml :=
  ⟨ofToml?_toToml s, rfl, rfl⟩

end FieldQuery.Settings
