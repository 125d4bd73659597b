import FieldQuery.Node
import FieldQuery.Json.Reader
set_option autoImplicit false

/-! Trees as JSON. Every node is written as an object whose first field names its operator. It is
read from an object with its fields in any order, or from an array of the operator and the fields.
Unknown fields are ignored, repeated ones are refused, and what is read has no logical node without
children and no comparison with an empty side. -/

namespace FieldQuery.Node

mutual

def toJson : Node → Json
  | .comparison key value => .object [
      ("operator".toList, .string "comparison".toList),
      ("key".toList, .string key), ("value".toList, .string value)]
  | .logical op children => .object [
      ("operator".toList, .string op.name), ("children".toList, .array (toJsons children))]
  | .negation child => .object [
      ("operator".toList, .string "not".toList), ("child".toList, toJson child)]

def toJsons : List Node → List Json
  | [] => []
  | node :: nodes => toJson node :: toJsons nodes

end

/-- Why a document is no tree. Only the last two are about what a tree may hold. -/
inductive JsonFault where
  | malformed
  | emptyComparison
  | noChildren (op : Op)
  deriving DecidableEq, Repr

def JsonFault.message? : JsonFault → Option Text
  | .malformed => none
  | .emptyComparison => some "comparison key and value must not be empty".toList
  | .noChildren op => some (op.name ++ " node has no children".toList)

inductive Operator where
  | comparison | logical (op : Op) | negation
  deriving DecidableEq, Repr

def Operator.ofName? (name : Text) : Option Operator :=
  if name = "comparison".toList then some .comparison
  else if name = "and".toList then some (.logical .and)
  else if name = "or".toList then some (.logical .or)
  else if name = "not".toList then some .negation
  else none

/-- Reads an operator by its name or, below the root, by its number as well. -/
def Operator.ofJson? (nested : Bool) : Json → Option Operator
  | .string name => ofName? name
  | .number literal =>
    if !nested then none
    else if literal = ['0'] then some .comparison
    else if literal = ['1'] then some (.logical .and)
    else if literal = ['2'] then some (.logical .or)
    else if literal = ['3'] then some .negation
    else none
  | _ => none

def fieldValues (name : Text) (fields : List (Text × Json)) : List Json :=
  (fields.filter (·.1 = name)).map (·.2)

def operatorOf (nested : Bool) (fields : List (Text × Json)) : Except JsonFault Operator :=
  match fieldValues "operator".toList fields with
  | [value] =>
    match Operator.ofJson? nested value with
    | some operator => .ok operator
    | none => .error .malformed
  | _ => .error .malformed

def comparisonOf : List Json → List Json → Except JsonFault Node
  | [.string key], [.string value] =>
    if key = [] ∨ value = [] then .error .emptyComparison else .ok (.comparison key value)
  | _, _ => .error .malformed

def logicalOf (op : Op) (children : List Node) : Except JsonFault Node :=
  if children = [] then .error (.noChildren op) else .ok (.logical op children)

mutual

/-- Reads a node. The first fault in document order is reported, that of a child before that of its
parent. -/
def ofJsonAt (nested : Bool) : Json → Except JsonFault Node
  | .object fields => do
    match ← operatorOf nested fields with
    | .comparison =>
      comparisonOf (fieldValues "key".toList fields) (fieldValues "value".toList fields)
    | .logical op => logicalOf op (← childrenIn none fields)
    | .negation => return .negation (← childIn none fields)
  | .array (first :: rest) =>
    match Operator.ofJson? nested first with
    | none => .error .malformed
    | some .comparison => comparisonOf (rest.take 1) (rest.drop 1)
    | some (.logical op) => do logicalOf op (← onlyChildren rest)
    | some .negation => return .negation (← onlyChild rest)
  | _ => .error .malformed

def ofJsonList : List Json → Except JsonFault (List Node)
  | [] => .ok []
  | item :: items => do return (← ofJsonAt true item) :: (← ofJsonList items)

def ofJsonArray : Json → Except JsonFault (List Node)
  | .array items => ofJsonList items
  | _ => .error .malformed

def childrenIn (seen : Option (List Node)) : List (Text × Json) → Except JsonFault (List Node)
  | [] =>
    match seen with
    | some children => .ok children
    | none => .error .malformed
  | (key, value) :: fields =>
    if key = "children".toList then
      if seen.isSome then .error .malformed
      else do childrenIn (some (← ofJsonArray value)) fields
    else childrenIn seen fields

def childIn (seen : Option Node) : List (Text × Json) → Except JsonFault Node
  | [] =>
    match seen with
    | some child => .ok child
    | none => .error .malformed
  | (key, value) :: fields =>
    if key = "child".toList then
      if seen.isSome then .error .malformed
      else do childIn (some (← ofJsonAt true value)) fields
    else childIn seen fields

def onlyChildren : List Json → Except JsonFault (List Node)
  | [] => .error .malformed
  | value :: rest => do
    let children ← ofJsonArray value
    if rest.isEmpty then .ok children else .error .malformed

def onlyChild : List Json → Except JsonFault Node
  | [] => .error .malformed
  | value :: rest => do
    let child ← ofJsonAt true value
    if rest.isEmpty then .ok child else .error .malformed

end

def ofJson (document : Json) : Except JsonFault Node := ofJsonAt false document

/-- Reads a tree from a whole text. Text behind the tree is refused after the tree is read. -/
def ofJsonText (text : Text) : Except JsonFault Node :=
  match Json.read? text with
  | none => .error .malformed
  | some (document, rest) => do
    let node ← ofJson document
    if rest.all Json.isBlank then .ok node else .error .malformed

end FieldQuery.Node
