import FieldQuery.Parser
set_option autoImplicit false

namespace FieldQuery.Parser

inductive Event where
  | token (t : Token)
  | opened (depth : Nat) (negated : Bool)
  | closed (depth : Nat) (operator : Text)
  | regrouped (old new : Op)
  deriving DecidableEq, Repr

namespace State

def groupEvents (s next : State) (t : Token) : List Event :=
  match t.kind with
  | .openGroup => [.opened next.depth next.top.negated]
  | .closeGroup => [.closed next.depth s.top.toNode.operator]
  | .logicalOperator =>
    match s.top.op, next.top.op with
    | some old, some new => if old = new then [] else [.regrouped old new]
    | _, _ => []
  | .text => []
  | .whitespace => []
  | .negator => []
  | .comparator => []

def events (s : State) : List Token → List Event
  | [] => []
  | t :: tokens =>
    let seen := if t.kind = .whitespace ∨ s.awaited.isSome then [] else [.token t]
    match s.step t with
    | .error _ => seen
    | .ok next => seen ++ s.groupEvents next t ++ next.events tokens

end State

def events (query : Text) : List Event :=
  State.initial.events (Cursor.drain (Tokenizer.ofText query)).1.1

end FieldQuery.Parser
