import FieldQuery.Highlight.Syntax
set_option autoImplicit false

namespace FieldQuery.Highlight

def findByExtension? (syntaxes : List Syntax) (extension : Text) : Option Syntax :=
  syntaxes.reverse.find? fun candidate =>
    candidate.extensions.any fun known => known.asciiLower = extension.asciiLower

def findByName? (syntaxes : List Syntax) (name : Text) : Option Syntax :=
  syntaxes.reverse.find? fun candidate => candidate.name = name

/-- Syntaxes to look up by extension or by name. One of them is named `Plain Text`. -/
structure SyntaxSet where
  syntaxes : List Syntax
  plainText : Syntax
  find_plainText : findByName? syntaxes "Plain Text".toList = some plainText

/-- The syntax with this extension or else with this name, and plain text if there is none. -/
def SyntaxSet.lookup (set : SyntaxSet) (name : Text) : Syntax :=
  (findByExtension? set.syntaxes name <|> findByName? set.syntaxes name).getD set.plainText

def escaped (ranges : List Range) : Text :=
  ranges.flatMap fun range => range.hue.code ++ range.text

def highlightLines (found : Syntax) : found.State → List Text → Text
  | _, [] => []
  | state, line :: lines =>
    let (ranges, behind) := found.line state line
    escaped (ranges.getD [⟨.unstyled, line⟩]) ++ highlightLines found behind lines

def SyntaxSet.highlight (set : SyntaxSet) (content name : Text) : Text :=
  highlightLines (set.lookup name) (set.lookup name).start content.pieces ++ resetCode

def bundled : SyntaxSet where
  syntaxes := [plainText, jsonSyntax, tomlSyntax]
  plainText := plainText
  find_plainText := rfl

def json (content : Text) : Text := bundled.highlight content "json".toList

def toml (content : Text) : Text := bundled.highlight content "toml".toList

def plain (content : Text) : Text := bundled.highlight content "plain".toList

end FieldQuery.Highlight
