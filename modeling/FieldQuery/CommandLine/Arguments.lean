import FieldQuery.Settings
set_option autoImplicit false

/-! The arguments of a run. Flags and words may stand in any order, `--` ends the flags, and short
flags may share a dash. Verbosity, colour and help can be asked for before the name of the command
and behind it; the version can only before it, and every other flag belongs to one command. -/

namespace FieldQuery.CommandLine

inductive Flag where
  | verbose | noColor | version | help
  | json | tree | query | compact | keepWhitespace | quiet | global | force
  deriving DecidableEq, Repr

namespace Flag

def word : Flag → Text
  | .verbose => "verbose".toList
  | .noColor => "no-color".toList
  | .version => "version".toList
  | .help => "help".toList
  | .json => "json".toList
  | .tree => "tree".toList
  | .query => "query".toList
  | .compact => "compact".toList
  | .keepWhitespace => "keep-whitespace".toList
  | .quiet => "quiet".toList
  | .global => "global".toList
  | .force => "force".toList

def letter? : Flag → Option Char
  | .verbose => some 'v'
  | .version => some 'V'
  | .help => some 'h'
  | .quiet => some 'q'
  | _ => none

def common : List Flag := [.verbose, .noColor, .help]

end Flag

inductive Command where
  | parse (query : Text) (format : Option Format) (compact : Bool)
  | tokens (query : Text) (asJson keepWhitespace : Bool)
  | check (queries : List Text) (quiet asJson : Bool)
  | config
  | init (global force : Bool)
  deriving DecidableEq, Repr

structure Options where
  verbosity : Nat
  noColor : Bool
  deriving DecidableEq, Repr

inductive Request where
  | version
  /-- The first line of the help that is asked for. -/
  | help (about : Text)
  | misuse
  | run (options : Options) (command : Command)
  deriving DecidableEq, Repr

def Request.programHelp : Request := .help "Query Syntax - parse and inspect field queries".toList

inductive Argument where
  | word (text : Text)
  | flags (flags : List (Option Flag))
  | endOfFlags
  deriving DecidableEq, Repr

def Argument.ofText (known : List Flag) : Text → Argument
  | ['-', '-'] => .endOfFlags
  | '-' :: '-' :: name => .flags [known.find? (·.word = name)]
  | '-' :: c :: letters =>
    .flags ((c :: letters).map fun c => known.find? (·.letter? = some c))
  | text => .word text

def formats (flags : List Flag) : List Format :=
  flags.filterMap fun flag =>
    match flag with
    | .json => some .json
    | .tree => some .tree
    | .query => some .query
    | _ => none

inductive CommandName where
  | parse | tokens | check | config | init
  deriving DecidableEq, Repr

namespace CommandName

def ofText? (text : Text) : Option CommandName :=
  if text = "parse".toList then some .parse
  else if text = "tokens".toList then some .tokens
  else if text = "check".toList then some .check
  else if text = "config".toList then some .config
  else if text = "init".toList then some .init
  else none

def about : CommandName → Text
  | .parse => "Parse a query and print its tree".toList
  | .tokens => "Show the token stream for a query".toList
  | .check => "Validate one or more queries".toList
  | .config => "Show effective configuration settings".toList
  | .init => "Initialize qs configuration in current directory".toList

def flags : CommandName → List Flag
  | .parse => [.json, .tree, .query, .compact]
  | .tokens => [.json, .keepWhitespace]
  | .check => [.quiet, .json]
  | .config => []
  | .init => [.global, .force]

def takesWord : CommandName → Nat → Bool
  | .parse, words => words = 0
  | .tokens, words => words = 0
  | .check, _ => true
  | .config, _ => false
  | .init, _ => false

def command? (flags : List Flag) : CommandName → List Text → Option Command
  | .parse, [query] =>
    match formats flags with
    | [] => some (.parse query none (flags.contains .compact))
    | [format] => some (.parse query (some format) (flags.contains .compact))
    | _ => none
  | .tokens, [query] =>
    some (.tokens query (flags.contains .json) (flags.contains .keepWhitespace))
  | .check, query :: queries =>
    if flags.contains .quiet && flags.contains .json then none
    else some (.check (query :: queries) (flags.contains .quiet) (flags.contains .json))
  | .config, [] => some .config
  | .init, [] => some (.init (flags.contains .global) (flags.contains .force))
  | _, _ => none

end CommandName

namespace Options

/-- The flags behind the name of a command; a verbosity given there replaces the one before. -/
def withFlags (o : Options) (flags : List Flag) : Options where
  verbosity :=
    if flags.contains .verbose then flags.count .verbose else o.verbosity
  noColor := o.noColor || flags.contains .noColor

/-- Takes the flags before the name of a command in order. Asking for the version or for help ends
the reading at once, and so does a mistake. -/
def take (o : Options) : List (Option Flag) → Except Request Options
  | [] => .ok o
  | some .version :: _ => .error .version
  | some .help :: _ => .error .programHelp
  | some .verbose :: flags => take { o with verbosity := o.verbosity + 1 } flags
  | some .noColor :: flags =>
    if o.noColor then .error .misuse else take { o with noColor := true } flags
  | _ :: _ => .error .misuse

end Options

namespace CommandName

/-- Adds flags behind the name of a command to those before them. Only `verbose` may be given more
than once. -/
def addFlags (name : CommandName) (seen : List Flag) : List (Option Flag) → Except Request (List Flag)
  | [] => .ok seen
  | some .help :: _ => .error (.help name.about)
  | some flag :: flags =>
    if flag ≠ .verbose ∧ flag ∈ seen then .error .misuse else name.addFlags (flag :: seen) flags
  | none :: _ => .error .misuse

/-- The flags and the words of a command, taken in order up to a mistake or the wish for help. -/
def collect (name : CommandName) (flags : List Flag) (words : List Text) :
    List Text → Except Request (List Flag × List Text)
  | [] => .ok (flags, words)
  | text :: texts =>
    match Argument.ofText (Flag.common ++ name.flags) text with
    | .endOfFlags => .ok (flags, words ++ texts)
    | .flags here => do name.collect (← name.addFlags flags here) words texts
    | .word word =>
      if name.takesWord words.length then name.collect flags (words ++ [word]) texts
      else .error .misuse

end CommandName

def Request.ofCommand (options : Options) (name : CommandName) (texts : List Text) : Request :=
  match name.collect [] [] texts with
  | .error request => request
  | .ok (flags, words) =>
    match name.command? flags words with
    | none => .misuse
    | some command => .run (options.withFlags flags) command

def Request.ofTopics : List Text → Request
  | [] => .programHelp
  | [topic] =>
    match CommandName.ofText? topic with
    | some name => .help name.about
    | none =>
      if topic = "help".toList then
        .help "Print this message or the help of the given subcommand(s)".toList
      else .misuse
  | _ => .misuse

def Request.ofTexts (options : Options) : List Text → Request
  | [] => .misuse
  | text :: texts =>
    match Argument.ofText (.version :: Flag.common) text with
    | .endOfFlags => .misuse
    | .word word =>
      match CommandName.ofText? word with
      | none => if word = "help".toList then .ofTopics texts else .misuse
      | some name => .ofCommand options name texts
    | .flags flags =>
      match options.take flags with
      | .error request => request
      | .ok options => .ofTexts options texts

def Request.ofArguments (texts : List Text) : Request := .ofTexts ⟨0, false⟩ texts

end FieldQuery.CommandLine
