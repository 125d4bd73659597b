import FieldQuery.Toml.String
set_option autoImplicit false

namespace FieldQuery

inductive Format where
  | tree | json | query
  deriving DecidableEq, Repr

namespace Format

def name : Format → Text
  | .tree => "tree".toList
  | .json => "json".toList
  | .query => "query".toList

def all : List Format := [.tree, .json, .query]

def ofName? (name : Text) : Option Format := all.find? (·.name = name)

end Format

structure Settings where
  format : Format
  pretty : Bool
  color : Bool
  /-- Whether `pretty` was set, and not only left at its default. -/
  prettyExplicit : Bool
  level : Text
  deriving DecidableEq, Repr

inductive Warning where
  | invalidLevel (level : Text)
  | prettyIgnored (format : Format)
  deriving DecidableEq, Repr

namespace Settings

def default : Settings := ⟨.tree, true, true, false, "warn".toList⟩

def levelNames : List Text :=
  ["off".toList, "error".toList, "warn".toList, "info".toList, "debug".toList, "trace".toList]

def directiveLevel (directive : Text) : Text :=
  ((directive.splitOn '=').getLast?.getD []).trim

def isValidLevel (level : Text) : Bool :=
  !level.trim.isEmpty
    && (level.trim.splitOn ',').all fun d => levelNames.contains (directiveLevel d).asciiLower

def warnings (s : Settings) : List Warning :=
  (if isValidLevel s.level then [] else [.invalidLevel s.level])
    ++ (if s.prettyExplicit && s.format ≠ .json then [.prettyIgnored s.format] else [])

def boolText (b : Bool) : Text := if b then "true".toList else "false".toList

def toToml (s : Settings) : Text :=
  "[output]\nformat = ".toList ++ Toml.writeString s.format.name
    ++ "\npretty = ".toList ++ boolText s.pretty
    ++ "\ncolor = ".toList ++ boolText s.color
    ++ "\n\n[log]\nlevel = ".toList ++ Toml.writeString s.level ++ ['\n']

end Settings

def Warning.message : Warning → Text
  | .invalidLevel level =>
    "log level '".toList ++ level ++ "' is not one of ".toList
      ++ [',', ' '].intercalate Settings.levelNames
  | .prettyIgnored format =>
    "output.pretty has no effect with format '".toList ++ format.name ++ ['\'']

end FieldQuery
