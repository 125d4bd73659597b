import FieldQuery.Settings
set_option autoImplicit false

namespace FieldQuery.Template

/-- Puts a comment sign in front of every line that is neither empty nor a comment. -/
def commentOut (text : Text) : Text :=
  text.lines.flatMap fun line =>
    (if line.isEmpty || line.head? = some '#' then [] else ['#', ' ']) ++ line ++ ['\n']

def outputSection : Text :=
  "[output]\n".toList
    ++ "# How `qs parse` prints trees: \"tree\", \"json\" or \"query\".\n".toList
    ++ "format = \"tree\"\n".toList

def prettySetting : Text := "# Pretty-print JSON output.\npretty = true\n".toList

def colorSetting : Text := "# Use ANSI colors and syntax highlighting.\ncolor = true\n".toList

def logSection : Text :=
  "\n[log]\n# Default log filter when RUST_LOG and -v are not given.\nlevel = \"warn\"\n".toList

def localExample : Text :=
  "# qs configuration for this directory tree.\n#\n".toList
    ++ "# Files named .qs.toml are discovered from the working directory upwards, then\n".toList
    ++ "# ~/.qs.toml is read last. The closest file wins for each setting.\n\n".toList
    ++ "# Stop discovery here and ignore parent and global configs.\nroot = false\n\n".toList
    ++ outputSection ++ prettySetting ++ colorSetting ++ logSection

def globalExample : Text :=
  "# Global qs configuration (~/.qs.toml).\n#\n".toList
    ++ "# Settings here apply everywhere unless a closer .qs.toml overrides them.\n\n".toList
    ++ outputSection ++ colorSetting ++ logSection

def forDirectory : Text := commentOut localExample

def forHome : Text := commentOut globalExample

end FieldQuery.Template
