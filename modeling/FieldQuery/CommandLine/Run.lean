import FieldQuery.Check
import FieldQuery.CommandLine.Arguments
import FieldQuery.Log
import FieldQuery.Node.Printed
import FieldQuery.Report
import FieldQuery.Settings.Discovery
import FieldQuery.Settings.Template
import FieldQuery.Token.Listing
set_option autoImplicit false

/-! The commands as functions: from the arguments, the directory and the file tree to what is
printed, the exit status and the tree afterwards. Only `init` changes the tree, and it alone runs
without loading the settings, so that a broken file does not stand in its way. -/

namespace FieldQuery.CommandLine

/-- Where a command runs. `logFilter` is the filter given from outside. -/
structure Surroundings where
  tree : FileTree
  directory : Path
  home : Path
  logFilter : Option Text
  deriving DecidableEq

structure Outcome where
  status : Nat
  stdout : Text
  stderr : Text
  tree : FileTree
  deriving DecidableEq

structure Session where
  surroundings : Surroundings
  config : Config
  color : Bool
  filter : Log.Filter
  deriving DecidableEq

def println (text : Text) : Text := text ++ ['\n']

namespace Session

def start (s : Surroundings) (options : Options) (config : Config) : Session where
  surroundings := s
  config := config
  color := config.settings.color && !options.noColor
  filter := .choose s.logFilter options.verbosity config.settings.level

def preamble (s : Session) : Text :=
  s.filter.lines
    [.starting s.surroundings.directory.toText s.config.sources.length]

def readingLog (s : Session) (query : Text) : Text :=
  s.filter.lines ((Parser.events query).map .ofEvent)

def success (s : Session) (stdout stderr : Text) : Outcome :=
  ⟨0, stdout, s.preamble ++ stderr, s.surroundings.tree⟩

def failure (s : Session) (stdout stderr : Text) : Outcome :=
  ⟨1, stdout, s.preamble ++ stderr, s.surroundings.tree⟩

def errorReport (s : Session) (query : Text) (error : QueryError) : Text :=
  println (error.report s.color query)

def parse (s : Session) (query : Text) (format : Option Format) (compact : Bool) : Outcome :=
  match FieldQuery.parse query with
  | .error e => s.failure [] (s.readingLog query ++ s.errorReport query e)
  | .ok node =>
    let settings := s.config.settings
    s.success
      (node.printed (format.getD settings.format) (settings.pretty && !compact) s.color)
      (s.readingLog query ++ s.filter.lines [.parsed node.comparisonCount])

def tokens (s : Session) (query : Text) (asJson keepWhitespace : Bool) : Outcome :=
  match tokenize query with
  | .error e => s.failure [] (s.errorReport query e)
  | .ok tokens =>
    let shown := if keepWhitespace then tokens else tokens.filter (·.kind ≠ .whitespace)
    s.success
      (println (if asJson then (Token.listing query shown).pretty else Token.table s.color shown))
      []

def okLine (s : Session) (check : Check) : Text :=
  match check.error with
  | none => println (painted s.color .success "ok".toList ++ [' '] ++ check.query)
  | some _ => []

def faultLines (s : Session) (check : Check) : Text :=
  match check.error with
  | none => []
  | some e => s.errorReport check.query e

def tally (s : Session) (failed all : Nat) : Text :=
  if failed = 0 then []
  else println (painted s.color .warning
    (Text.decimal failed ++ " of ".toList ++ Text.decimal all ++ " queries failed".toList))

def check (s : Session) (queries : List Text) (quiet asJson : Bool) : Outcome :=
  let checks := queries.map Check.ofQuery
  let failed := checks.countP (!·.isValid)
  let log := queries.flatMap s.readingLog
  let finish := if failed = 0 then s.success else s.failure
  if asJson then finish (println (Check.listing checks).pretty) log
  else if quiet then finish [] log
  else finish (checks.flatMap s.okLine)
    (log ++ checks.flatMap s.faultLines ++ s.tally failed checks.length)

def comment (s : Session) (text : Text) : Text :=
  println (painted s.color .dim (['#', ' '] ++ text))

def sourceLines (s : Session) : Text :=
  match s.config.sources with
  | [] => s.comment "no configuration files found, showing defaults".toList
  | sources => sources.flatMap s.comment

def warningLine (s : Session) (w : Warning) : Text :=
  println (painted s.color .warning "warning:".toList ++ [' '] ++ w.message)

def showConfig (s : Session) : Outcome :=
  let document := s.config.settings.toToml
  s.success
    (s.sourceLines ++ if s.color then Highlight.toml document else document)
    (s.config.settings.warnings.flatMap s.warningLine)

def isForHome (s : Session) (global : Bool) : Bool :=
  global || ((Config.fileIn s.surroundings.home).parent?.any (·.same s.surroundings.directory))

def initTarget (s : Session) (global : Bool) : Path :=
  Config.fileIn (if s.isForHome global then s.surroundings.home else s.surroundings.directory)

def initText (s : Session) (global : Bool) : Text :=
  if s.isForHome global then Template.forHome else Template.forDirectory

def init (s : Session) (global force : Bool) : Outcome :=
  let target := s.initTarget global
  if s.surroundings.tree.hasEntry target && !force then
    s.failure [] (println ("error: configuration file already exists: ".toList ++ target.toText)
      ++ println "use --force to overwrite".toList)
  else match s.surroundings.tree.writeText target (s.initText global) with
    | .error fault => s.failure [] (println
        ("error: failed to write ".toList ++ target.toText ++ [':', ' '] ++ fault.message))
    | .ok tree =>
      { s.success (println (painted s.color .success "Created".toList ++ [' '] ++ target.toText)) []
        with tree := tree }

def command (s : Session) : Command → Outcome
  | .parse query format compact => s.parse query format compact
  | .tokens query asJson keepWhitespace => s.tokens query asJson keepWhitespace
  | .check queries quiet asJson => s.check queries quiet asJson
  | .config => s.showConfig
  | .init global force => s.init global force

end Session

def startingConfig (s : Surroundings) : Command → Except LoadFault Config
  | .init .. => .ok .default
  | _ => Config.load s.tree s.home s.directory

def version : Text := "qs 0.1.0".toList

def misuseMessage : Text := "error: these arguments are not understood".toList

def misuseStatus : Nat := 2

def run (s : Surroundings) (arguments : List Text) : Outcome :=
  match Request.ofArguments arguments with
  | .version => ⟨0, println version, [], s.tree⟩
  | .help about => ⟨0, println about, [], s.tree⟩
  | .misuse => ⟨misuseStatus, [], println misuseMessage, s.tree⟩
  | .run options command =>
    match startingConfig s command with
    | .error fault =>
      ⟨1, [], println ("error: failed to load configuration: ".toList ++ fault.message), s.tree⟩
    | .ok config => (Session.start s options config).command command

end FieldQuery.CommandLine
