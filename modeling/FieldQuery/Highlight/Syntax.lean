import FieldQuery.Paint
set_option autoImplicit false

/-! Syntaxes cut the lines of a document into ranges of one colour. A grammar gives the first range
of what is left of a line; the context that it is in goes on from range to range and from line to
line. -/

namespace FieldQuery

inductive Hue where
  | plain | string | quote | accent | constant
  /-- The colour of a line that could not be parsed. -/
  | unstyled
  deriving DecidableEq, Repr

def Hue.code : Hue → Text
  | .plain => sgr "38;2;248;248;242".toList
  | .string => sgr "38;2;241;250;140".toList
  | .quote => sgr "38;2;238;238;238".toList
  | .accent => sgr "38;2;255;121;198".toList
  | .constant => sgr "38;2;189;147;249".toList
  | .unstyled => sgr "38;2;0;0;0".toList

namespace Highlight

structure Range where
  hue : Hue
  text : Text
  deriving DecidableEq, Repr

structure Cut (σ : Type) where
  range : Range
  left : Text
  context : σ

structure Cut.Tiles {σ : Type} (cut : Cut σ) (line : Text) : Prop where
  append_left : cut.range.text ++ cut.left = line
  text_ne_nil : cut.range.text ≠ []

theorem Cut.tiles_cons {σ : Type} {hue : Hue} {front left rest : Text} {context : σ} (c : Char)
    (h : front ++ left = rest) : Cut.Tiles ⟨⟨hue, c :: front⟩, left, context⟩ (c :: rest) :=
  ⟨congrArg (c :: ·) h, List.cons_ne_nil c front⟩

theorem Cut.Tiles.length_left {σ : Type} {cut : Cut σ} {line : Text} (h : cut.Tiles line) :
    cut.left.length < line.length := by
  have hlength := congrArg List.length h.append_left
  have hpos := List.length_pos_iff.2 h.text_ne_nil
  rw [List.length_append] at hlength
  omega

structure Grammar (σ : Type) where
  cut : σ → Char → Text → Cut σ
  tiles : ∀ context c rest, (cut context c rest).Tiles (c :: rest)

def Grammar.ranges {σ : Type} (grammar : Grammar σ) : σ → Text → List Range × σ
  | context, [] => ([], context)
  | context, c :: rest =>
    let cut := grammar.cut context c rest
    let (ranges, behind) := grammar.ranges cut.context cut.left
    (cut.range :: ranges, behind)
termination_by _ line => line.length
decreasing_by exact (grammar.tiles context c rest).length_left

/-- A syntax goes from line to line. `line` gives the ranges of one, or none if it cannot be parsed,
and the state for the next. -/
structure Syntax where
  name : Text
  extensions : List Text
  State : Type
  start : State
  line : State → Text → Option (List Range) × State

def Grammar.toSyntax {σ : Type} (grammar : Grammar σ) (name : Text) (extensions : List Text)
    (start : σ) : Syntax where
  name := name
  extensions := extensions
  State := σ
  start := start
  line context text := (grammar.ranges context text).map some id

/-! ## Plain text -/

def plainCut : Unit → Char → Text → Cut Unit := fun _ c rest => ⟨⟨.plain, c :: rest⟩, [], ()⟩

def plainGrammar : Grammar Unit := ⟨plainCut, fun _ c rest => Cut.tiles_cons c rest.append_nil⟩

def plainText : Syntax := plainGrammar.toSyntax "Plain Text".toList ["txt".toList] ()

/-! ## JSON -/

inductive JsonContext where
  | outside | string
  deriving DecidableEq, Repr

def isBlank (c : Char) : Bool := c = ' ' || c = '\t' || c = '\r' || c = '\n'

def isContent (c : Char) : Bool := c ≠ '"' && c ≠ '\\'

def escapeLength (rest : Text) : Nat := if rest.head? = some 'u' then 5 else 1

def jsonCut : JsonContext → Char → Text → Cut JsonContext
  | .outside, c, rest =>
    if c = '"' then ⟨⟨.quote, [c]⟩, rest, .string⟩
    else if isBlank c then
      ⟨⟨.plain, c :: rest.takeWhile isBlank⟩, rest.dropWhile isBlank, .outside⟩
    else ⟨⟨.plain, [c]⟩, rest, .outside⟩
  | .string, c, rest =>
    if c = '"' then ⟨⟨.quote, [c]⟩, rest, .outside⟩
    else if c = '\\' then
      ⟨⟨.accent, c :: rest.take (escapeLength rest)⟩, rest.drop (escapeLength rest), .string⟩
    else ⟨⟨.string, c :: rest.takeWhile isContent⟩, rest.dropWhile isContent, .string⟩

theorem tiles_jsonCut (context : JsonContext) (c : Char) (rest : Text) :
    (jsonCut context c rest).Tiles (c :: rest) := by
  have hnone : [] ++ rest = rest := rfl
  cases context with
  | outside =>
    rw [jsonCut]
    split
    · exact Cut.tiles_cons c hnone
    · split
      · exact Cut.tiles_cons c List.takeWhile_append_dropWhile
      · exact Cut.tiles_cons c hnone
  | string =>
    rw [jsonCut]
    split
    · exact Cut.tiles_cons c hnone
    · split
      · exact Cut.tiles_cons c (List.take_append_drop _ rest)
      · exact Cut.tiles_cons c List.takeWhile_append_dropWhile

def jsonGrammar : Grammar JsonContext := ⟨jsonCut, tiles_jsonCut⟩

def jsonSyntax : Syntax := jsonGrammar.toSyntax "JSON".toList ["json".toList] .outside

/-! ## TOML -/

inductive TomlContext where
  | lineStart
  | sectionName
  | value
  | string (quote : Char) (multiline : Bool)
  deriving DecidableEq, Repr

/-- Whether three quotes end a multi-line string here: the last three of a run do. -/
def closesHere (quote : Char) (rest : Text) : Bool :=
  rest.take 2 = [quote, quote] && rest[2]? ≠ some quote

def endsText (quote : Char) (multiline : Bool) (c : Char) (rest : Text) : Bool :=
  c = quote && (!multiline || closesHere quote rest) || c = '\\' && quote = '"'

def splitText (quote : Char) (multiline : Bool) : Text → Text × Text
  | [] => ([], [])
  | c :: rest =>
    if endsText quote multiline c rest then ([], c :: rest)
    else (splitText quote multiline rest).map (c :: ·) id

def isKeyChar (c : Char) : Bool := c ≠ ' ' && c ≠ '\n'

def isSectionChar (c : Char) : Bool := c ≠ ']' && c ≠ '\n'

def isValueChar (c : Char) : Bool := c ≠ '\n'

def tomlCut : TomlContext → Char → Text → Cut TomlContext
  | .lineStart, c, rest =>
    if c = '\n' then ⟨⟨.plain, [c]⟩, rest, .lineStart⟩
    else if c = '[' then ⟨⟨.plain, [c]⟩, rest, .sectionName⟩
    else ⟨⟨.accent, c :: rest.takeWhile isKeyChar⟩, rest.dropWhile isKeyChar, .value⟩
  | .sectionName, c, rest =>
    if c = ']' then ⟨⟨.plain, [c]⟩, rest, .value⟩
    else if c = '\n' then ⟨⟨.plain, [c]⟩, rest, .lineStart⟩
    else
      ⟨⟨.plain, c :: rest.takeWhile isSectionChar⟩, rest.dropWhile isSectionChar, .sectionName⟩
  | .value, c, rest =>
    if c = '\n' then ⟨⟨.plain, [c]⟩, rest, .lineStart⟩
    else if c = ' ' ∨ c = '=' then ⟨⟨.plain, [c]⟩, rest, .value⟩
    else if c = '"' ∨ c = '\'' then
      if rest.take 2 = [c, c] then
        ⟨⟨.string, c :: rest.take 2⟩, rest.drop 2, .string c true⟩
      else ⟨⟨.string, [c]⟩, rest, .string c false⟩
    else ⟨⟨.constant, c :: rest.takeWhile isValueChar⟩, rest.dropWhile isValueChar, .value⟩
  | .string quote multiline, c, rest =>
    if c = quote ∧ !multiline then ⟨⟨.string, [c]⟩, rest, .value⟩
    else if c = quote ∧ closesHere quote rest then
      ⟨⟨.string, c :: rest.take 2⟩, rest.drop 2, .value⟩
    else if c = '\\' ∧ quote = '"' then
      ⟨⟨.accent, c :: rest.take (escapeLength rest)⟩, rest.drop (escapeLength rest),
        .string quote multiline⟩
    else
      let (front, left) := splitText quote multiline rest
      ⟨⟨.string, c :: front⟩, left, .string quote multiline⟩

theorem splitText_append (quote : Char) (multiline : Bool) (text : Text) :
    (splitText quote multiline text).1 ++ (splitText quote multiline text).2 = text := by
  induction text with
  | nil => rfl
  | cons c rest ih =>
    rw [splitText]
    split
    · rfl
    · exact congrArg (c :: ·) ih

theorem tiles_tomlCut (context : TomlContext) (c : Char) (rest : Text) :
    (tomlCut context c rest).Tiles (c :: rest) := by
  have hnone : [] ++ rest = rest := rfl
  cases context with
  | lineStart =>
    rw [tomlCut]
    split
    · exact Cut.tiles_cons c hnone
    · split
      · exact Cut.tiles_cons c hnone
      · exact Cut.tiles_cons c List.takeWhile_append_dropWhile
  | sectionName =>
    rw [tomlCut]
    split
    · exact Cut.tiles_cons c hnone
    · split
      · exact Cut.tiles_cons c hnone
      · exact Cut.tiles_cons c List.takeWhile_append_dropWhile
  | value =>
    rw [tomlCut]
    split
    · exact Cut.tiles_cons c hnone
    · split
      · exact Cut.tiles_cons c hnone
      · split
        · split
          · exact Cut.tiles_cons c (List.take_append_drop 2 rest)
          · exact Cut.tiles_cons c hnone
        · exact Cut.tiles_cons c List.takeWhile_append_dropWhile
  | string quote multiline =>
    rw [tomlCut]
    split
    · exact Cut.tiles_cons c hnone
    · split
      · exact Cut.tiles_cons c (List.take_append_drop 2 rest)
      · split
        · exact Cut.tiles_cons c (List.take_append_drop _ rest)
        · exact Cut.tiles_cons c (splitText_append quote multiline rest)

def tomlGrammar : Grammar TomlContext := ⟨tomlCut, tiles_tomlCut⟩

def tomlSyntax : Syntax := tomlGrammar.toSyntax "TOML".toList ["toml".toList] .lineStart

end Highlight

end FieldQuery
