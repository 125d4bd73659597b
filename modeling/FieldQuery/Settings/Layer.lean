import FieldQuery.Settings
import FieldQuery.Toml.Document
set_option autoImplicit false

/-! The settings of one file, any of which it may leave open, and how the layers of several files
make up the settings: the first layer that sets a field wins. -/

namespace FieldQuery

structure OutputLayer where
  format : Option Format
  pretty : Option Bool
  color : Option Bool
  deriving DecidableEq, Repr

structure LogLayer where
  level : Option Text
  deriving DecidableEq, Repr

/-- A section that is there but sets nothing differs from one that is missing only in what is shown
of the layer. -/
structure Layer where
  root : Option Bool
  output : Option OutputLayer
  log : Option LogLayer
  deriving DecidableEq, Repr

namespace Layer

open Toml (Value Entries)

/-- Reads an optional field; an unset field is fine, and one of a wrong type is not. -/
def field {α : Type} (read : Value → Option α) (value : Option Value) : Option (Option α) :=
  match value with
  | none => some none
  | some value => (read value).map some

def readBool : Value → Option Bool
  | .boolean b => some b
  | _ => none

def readText : Value → Option Text
  | .string text => some text
  | _ => none

def isEmptyValue : Value → Bool
  | .array items => items.isEmpty
  | .table _ entries => entries.isEmpty
  | _ => false

/-- A format is its name, or a table with its name as the only key and nothing in it. -/
def readFormat : Value → Option Format
  | .string name => Format.ofName? name
  | .table _ [(name, value)] => if isEmptyValue value then Format.ofName? name else none
  | _ => none

/-- A section is a table, or an array of its fields in order. A date has no fields either. -/
def sectionField (index : Nat) (key : Text) : Value → Option (Option Value)
  | .table _ entries => some (Entries.get? key entries)
  | .array items => some items[index]?
  | .tables items => some items[index]?
  | .datetime => some none
  | _ => none

def readOutput (value : Value) : Option OutputLayer := do
  some {
    format := ← field readFormat (← sectionField 0 "format".toList value)
    pretty := ← field readBool (← sectionField 1 "pretty".toList value)
    color := ← field readBool (← sectionField 2 "color".toList value) }

def readLog (value : Value) : Option LogLayer := do
  some { level := ← field readText (← sectionField 0 "level".toList value) }

def ofEntries? (entries : Entries) : Option Layer := do
  some {
    root := ← field readBool (entries.get? "root".toList)
    output := ← field readOutput (entries.get? "output".toList)
    log := ← field readLog (entries.get? "log".toList) }

def ofToml? (text : Text) : Option Layer := do ofEntries? (← Toml.document? text)

def format? (l : Layer) : Option Format := l.output.bind (·.format)
def pretty? (l : Layer) : Option Bool := l.output.bind (·.pretty)
def color? (l : Layer) : Option Bool := l.output.bind (·.color)
def level? (l : Layer) : Option Text := l.log.bind (·.level)

def onto (l : Layer) (s : Settings) : Settings where
  format := l.format?.getD s.format
  pretty := l.pretty?.getD s.pretty
  color := l.color?.getD s.color
  prettyExplicit := l.pretty?.isSome || s.prettyExplicit
  level := l.level?.getD s.level

end Layer

structure Config where
  settings : Settings
  sources : List Text
  deriving DecidableEq, Repr

namespace Config

def default : Config := ⟨.default, []⟩

def merge (layers : List (Text × Layer)) : Config where
  settings := layers.foldr (fun l s => l.2.onto s) .default
  sources := layers.map (·.1)

end Config

end FieldQuery
