import FieldQuery.Node
import FieldQuery.Tokenizer
set_option autoImplicit false

/-! Reading a query. The tree is built one token at a time and there is no precedence: the first
operator of a group becomes the group's operator, and a different operator later in the same group
puts all that was read so far one level down. Open groups wait on a stack.

Each token restricts the kind of the next one, whitespace apart:

* behind `(` no `:`, behind `)` no `(`, behind a comparison no text,
* behind `AND` or `OR` no operator and no `)`,
* behind `NOT` only `(` and text.

No tree taller than `maxDepth` is built. Groups and changes of operator both add levels, so the
limit is checked when a group opens, when it closes, when its operator changes and at the end. -/

namespace FieldQuery.Parser

/-- A group that still takes children. The height is that of its tallest child. -/
structure Group where
  op : Option Op
  children : List Node
  negated : Bool
  height : Nat
  deriving DecidableEq, Repr

namespace Group

def opened (negated : Bool) : Group := ⟨none, [], negated, 0⟩

def push (g : Group) (node : Node) (height : Nat) : Group :=
  { g with children := g.children ++ [node], height := max g.height height }

def nodeHeight (g : Group) : Nat := g.height + 1 + g.negated.toNat

def toNode (g : Group) : Node :=
  let node := Node.logical (g.op.getD .and) g.children
  if g.negated then .negation node else node

end Group

inductive Awaited where
  | comparator (key : Text)
  | value (key : Text)
  deriving DecidableEq, Repr

def Awaited.kind : Awaited → Kind
  | .comparator _ => .comparator
  | .value _ => .text

/-- `top` is the innermost open group and `below` holds those around it, the root last. -/
structure State where
  top : Group
  below : List Group
  forbidden : List Kind
  required : List Kind
  negateNext : Bool
  last : Option Kind
  awaited : Option Awaited
  deriving DecidableEq, Repr

def afterOpenGroup : List Kind := [.comparator]
def afterCloseGroup : List Kind := [.openGroup]
def afterComparison : List Kind := [.text]
def afterOperator : List Kind := [.logicalOperator, .closeGroup]
def negatable : List Kind := [.openGroup, .text]

namespace State

def initial : State := ⟨.opened false, [], [], [], false, none, none⟩

/-- The number of groups that are open, the root apart. -/
def depth (s : State) : Nat := s.below.length

def checkAdjacency (s : State) (t : Token) : Except QueryError Unit :=
  if s.required ≠ [] ∧ t.kind ∉ s.required then
    .error (.semantic (.unexpectedAmong t.kind s.required) (some t.column))
  else if t.kind ∈ s.forbidden then
    .error (.semantic (.unexpected t.kind) (some t.column))
  else .ok ()

/-- Opens a group, unless the root, the open groups and a leaf would be more levels than are
allowed. -/
def openGroup (s : State) (t : Token) : Except QueryError State :=
  if s.depth + 3 > maxDepth then .error (.semantic .tooDeep (some t.column))
  else .ok { s with
    top := .opened s.negateNext, below := s.top :: s.below, negateNext := false,
    forbidden := afterOpenGroup }

def closeGroup (s : State) (t : Token) : Except QueryError State :=
  match s.below with
  | [] => .error (.semantic .tooManyClosed (some t.column))
  | outer :: below =>
    if s.top.children = [] then .error (.semantic .emptyGroup (some t.column))
    else if s.top.nodeHeight > maxDepth then .error (.semantic .tooDeep (some t.column))
    else .ok { s with
      top := outer.push s.top.toNode s.top.nodeHeight, below := below,
      forbidden := afterCloseGroup }

/-- Takes an operator. One that differs from the operator of the group makes one child of all
children so far. -/
def logicalOperator (s : State) (t : Token) : Except QueryError State :=
  match Op.ofText? t.text with
  | none => .error (.semantic (.unknownOperator t.text) (some t.column))
  | some op =>
    if s.top.children = [] then .error (.semantic (.missingOperand t.kind) (some t.column))
    else match s.top.op with
      | none => .ok { s with top := { s.top with op := some op }, forbidden := afterOperator }
      | some old =>
        if old = op then .ok { s with forbidden := afterOperator }
        else if s.top.nodeHeight + 1 > maxDepth then
          .error (.semantic .tooDeep (some t.column))
        else .ok { s with
          top := { s.top with
            op := some op, children := [.logical old s.top.children],
            height := s.top.height + 1 },
          forbidden := afterOperator }

def comparison (s : State) (key value : Text) : State :=
  let leaf := Node.comparison key value
  { s with
    top := if s.negateNext then s.top.push (.negation leaf) 2 else s.top.push leaf 1,
    negateNext := false, forbidden := afterComparison, awaited := none }

def supply (s : State) (awaited : Awaited) (t : Token) : Except QueryError State :=
  if t.kind = awaited.kind then
    match awaited with
    | .comparator key => .ok { s with awaited := some (.value key) }
    | .value key => .ok (s.comparison key t.text)
  else .error (.semantic (.expected awaited.kind t.kind) (some t.column))

def dispatch (s : State) (t : Token) : Except QueryError State := do
  s.checkAdjacency t
  let s := { s with required := [], forbidden := [], last := some t.kind }
  match t.kind with
  | .whitespace => .ok s
  | .openGroup => s.openGroup t
  | .closeGroup => s.closeGroup t
  | .text => .ok { s with awaited := some (.comparator t.text) }
  | .logicalOperator => s.logicalOperator t
  | .negator => .ok { s with required := negatable, negateNext := true }
  | .comparator => .error (.semantic (.unexpected t.kind) (some t.column))

def step (s : State) (t : Token) : Except QueryError State :=
  if t.kind = .whitespace then .ok s
  else match s.awaited with
    | some awaited => s.supply awaited t
    | none => s.dispatch t

def finish (s : State) : Except QueryError Node :=
  match s.awaited with
  | some awaited => .error (.semantic (.expectedAtEnd awaited.kind) none)
  | none =>
    if s.negateNext then .error (.semantic (.endAfterNegator negatable) none)
    else if s.last = some .logicalOperator then .error (.semantic .endAfterOperator none)
    else if s.below ≠ [] then .error (.semantic .unclosed none)
    else if s.top.children = [] then .error (.semantic .emptyQuery none)
    else if s.top.nodeHeight > maxDepth then .error (.semantic .tooDeep none)
    else .ok s.top.toNode

def run (s : State) (tokens : List Token) : Except QueryError State :=
  tokens.foldlM step s

end State

variable {σ : Type} [Cursor σ]

/-- Takes tokens from the cursor until it ends or a token is refused. The cursor is left behind
the last token that was looked at. -/
def readWithin : Nat → State → σ → Except QueryError Node × σ
  | 0, s, cursor => (s.finish, cursor)
  | fuel + 1, s, cursor =>
    match Cursor.next cursor with
    | (.error e, cursor) => (.error e, cursor)
    | (.ok none, cursor) => (s.finish, cursor)
    | (.ok (some t), cursor) =>
      match s.step t with
      | .error e => (.error e, cursor)
      | .ok s => readWithin fuel s cursor

def read (cursor : σ) : Except QueryError Node × σ :=
  readWithin (Cursor.left cursor + 1) .initial cursor

end Parser

def parseTokens (tokens : List Token) : Except QueryError Node :=
  (Parser.read (Replay.ofList tokens)).1

def parse (query : Text) : Except QueryError Node :=
  (Parser.read (SkipWhitespace.mk (Tokenizer.ofText query))).1

end FieldQuery
