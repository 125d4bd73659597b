import FieldQuery.Text
set_option autoImplicit false

/-! TOML documents as values, and the rules on where a key may be defined. A table remembers how it
came to be, because that decides whether a later header or dotted key may add to it. -/

namespace FieldQuery.Toml

/-- How a table came to be: from a header of its own (the root counts as one), from a longer header
or key that goes through it, or as a value between braces. -/
inductive Origin where
  | header
  | impliedByHeader
  | impliedByKey
  | braces
  deriving DecidableEq, Repr

/-- Numbers and dates keep no value, because no setting has one. -/
inductive Value where
  | string (text : Text)
  | boolean (value : Bool)
  | number
  | datetime
  | array (items : List Value)
  /-- Tables that share a double-bracket header; never empty. -/
  | tables (items : List Value)
  | table (origin : Origin) (entries : List (Text × Value))
  deriving Repr

abbrev Entries := List (Text × Value)

namespace Entries

def get? (key : Text) : Entries → Option Value
  | [] => none
  | (k, v) :: rest => if k = key then some v else get? key rest

def set (key : Text) (value : Value) : Entries → Entries
  | [] => [(key, value)]
  | (k, v) :: rest => if k = key then (k, value) :: rest else (k, v) :: set key value rest

end Entries

def impliedBy (dotted : Bool) : Origin := if dotted then .impliedByKey else .impliedByHeader

/-- Whether a path may go through a table. A dotted key goes only through tables that no header
and no braces define; a header goes through all but those between braces. -/
def Origin.admits (dotted : Bool) : Origin → Bool
  | .header => !dotted
  | .impliedByHeader => true
  | .impliedByKey => true
  | .braces => false

/-- Follows a path and changes the table at its end. A path goes through the last of the tables
that share a header. -/
def modifyAt (dotted : Bool) (f : Origin → Entries → Option Entries) :
    List Text → Origin → Entries → Option Entries
  | [], origin, entries => f origin entries
  | key :: path, _, entries =>
    match entries.get? key with
    | none => do
      let inner ← modifyAt dotted f path (impliedBy dotted) []
      some (entries.set key (.table (impliedBy dotted) inner))
    | some (.table origin inner) =>
      if origin.admits dotted then do
        let inner ← modifyAt dotted f path origin inner
        some (entries.set key (.table origin inner))
      else none
    | some (.tables items) =>
      match items.getLast? with
      | some (.table origin inner) => do
        let inner ← modifyAt dotted f path origin inner
        some (entries.set key (.tables (items.dropLast ++ [.table origin inner])))
      | _ => none
    | some _ => none

/-- Defines a key that is not there yet. A key with a path goes into a table that keys made, and a
key without one into any other. -/
def define (path : List Text) (key : Text) (value : Value) (origin : Origin) (entries : Entries) :
    Option Entries :=
  let dotted := !path.isEmpty
  modifyAt dotted (fun origin entries =>
    if decide (origin = .impliedByKey) ≠ dotted then none
    else match entries.get? key with
      | some _ => none
      | none => some (entries.set key value)) path origin entries

end FieldQuery.Toml
