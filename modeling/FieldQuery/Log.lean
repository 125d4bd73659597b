import FieldQuery.Parser.Event
import FieldQuery.Settings
import FieldQuery.Text.Quoted
set_option autoImplicit false

/-! The log and its filter. A filter is a list of directives; the one with the longest target that
begins the target of a record decides whether the record is written. -/

namespace FieldQuery.Log

inductive Level where
  | debug | trace
  deriving DecidableEq, Repr

def Level.rank : Level → Nat
  | .debug => 4
  | .trace => 5

def Level.label : Level → Text
  | .debug => "DEBUG".toList
  | .trace => "TRACE".toList

structure Record where
  level : Level
  target : Text
  message : Text
  fields : List (Text × Text)
  deriving DecidableEq, Repr

namespace Record

def line (r : Record) : Text :=
  r.level.label ++ [' '] ++ r.target ++ [':', ' '] ++ r.message
    ++ r.fields.flatMap (fun (name, value) => [' '] ++ name ++ ['='] ++ value) ++ ['\n']

def starting (directory : Text) (files : Nat) : Record :=
  ⟨.debug, "qs".toList, "starting".toList,
    [("cwd".toList, directory), ("config_files".toList, Text.decimal files)]⟩

def parsed (comparisons : Nat) : Record :=
  ⟨.debug, "qs::cli::commands::parse".toList, "parsed query".toList,
    [("comparisons".toList, Text.decimal comparisons)]⟩

def parserTarget : Text := "qs_query::parser".toList

def ofEvent : Parser.Event → Record
  | .token t => ⟨.trace, parserTarget, "token".toList,
    [("kind".toList, t.kind.name), ("column".toList, Text.decimal t.column),
      ("text".toList, t.text)]⟩
  | .opened depth negated => ⟨.debug, parserTarget, "open group".toList,
    [("depth".toList, Text.decimal depth), ("negated".toList, Settings.boolText negated)]⟩
  | .closed depth operator => ⟨.debug, parserTarget, "close group".toList,
    [("depth".toList, Text.decimal depth), ("operator".toList, operator.quoted)]⟩
  | .regrouped old new => ⟨.debug, parserTarget, "regroup".toList,
    [("from".toList, old.name), ("to".toList, new.name)]⟩

end Record

/-- Records whose target begins with `target` are written up to the level of rank `limit`. -/
structure Directive where
  target : Text
  limit : Nat
  deriving DecidableEq, Repr

def maxRank : Nat := 5

def rank? (text : Text) : Option Nat :=
  let digits := if text.head? = some '+' then text.tail else text
  if !digits.isEmpty && digits.all (fun c => '0' ≤ c && c ≤ '9') then
    let n := digits.foldl (fun n c => 10 * n + (c.toNat - '0'.toNat)) 0
    if n ≤ maxRank then some n else none
  else Settings.levelNames.idxOf? text.asciiLower

namespace Directive

def startsTarget (c : Char) : Bool :=
  Unicode.isAlphanumeric c || c = '-' || c = ':' || c = '_'

/-- A level alone, a target alone, or a target and a level. Blanks around a directive count as part
of it, so that a level between blanks is no level. -/
def ofText? (text : Text) : Option Directive :=
  let startsWell := match text.trim with
    | [] => false
    | c :: _ => startsTarget c
  if !startsWell || text.contains '[' then none
  else match text.span (· ≠ '=') with
    | (target, _ :: level) =>
      if Text.trimStart target ≠ target then none
      else if level.isEmpty then some ⟨target, maxRank⟩
      else (rank? level).map fun limit => ⟨target, limit⟩
    | (word, []) =>
      match rank? word with
      | some limit => some ⟨[], limit⟩
      | none => some ⟨word, maxRank⟩

end Directive

structure Filter where
  directives : List Directive
  deriving DecidableEq, Repr

namespace Filter

def upTo (limit : Nat) : Filter := ⟨[⟨[], limit⟩]⟩

def errors : Filter := upTo 1
def warnings : Filter := upTo 2

def ofText? (text : Text) : Option Filter :=
  match (text.splitOn ',').filter (!·.isEmpty) with
  | [] => some errors
  | directives => (directives.mapM Directive.ofText?).map Filter.mk

/-- The directive with the longest fitting target, the last one of those. -/
def deciding? (f : Filter) (target : Text) : Option Directive :=
  f.directives.foldl (fun best d =>
    if d.target.isPrefixOf target then
      match best with
      | some b => if b.target.length ≤ d.target.length then some d else best
      | none => some d
    else best) none

def passes (f : Filter) (r : Record) : Bool :=
  match f.deciding? r.target with
  | some d => r.level.rank ≤ d.limit
  | none => false

def lines (f : Filter) (records : List Record) : Text :=
  (records.filter f.passes).flatMap Record.line

/-- A valid filter from outside wins, then the verbosity, then the settings. Settings that are no
filter let warnings through. -/
def choose (outside : Option Text) (verbosity : Nat) (level : Text) : Filter :=
  match outside.bind ofText? with
  | some f => f
  | none =>
    match verbosity with
    | 0 => (ofText? level).getD warnings
    | 1 => upTo Level.debug.rank
    | _ => upTo Level.trace.rank

end Filter

end FieldQuery.Log
