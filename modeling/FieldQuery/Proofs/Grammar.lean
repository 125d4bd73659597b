import FieldQuery.Proofs.Cursor
import FieldQuery.Proofs.Node
set_option autoImplicit false

/-! The grammar of queries, apart from any way of reading them. A phrase is what a group says:
operands from left to right, with or without operators between them. Its reading follows it from
left to right and has no precedence. -/

namespace FieldQuery

mutual

/-- A comparison, or a group in parentheses, either with `NOT` in front of it or not. -/
inductive Operand where
  | comparison (negated : Bool) (key value : Text)
  | group (negated : Bool) (body : Phrase)

inductive Phrase where
  | single (operand : Operand)
  | join (front : Phrase) (op : Option Op) (operand : Operand)

end

/-- What a group has come to: its operator, if it has one yet, and its children. -/
structure Reading where
  op : Option Op
  children : List Node
  deriving DecidableEq, Repr

namespace Reading

def empty : Reading := ⟨none, []⟩

def push (r : Reading) (node : Node) : Reading := ⟨r.op, r.children ++ [node]⟩

/-- Reads an operator behind the children: the first is the group's, and a different one makes one
child of all children so far. -/
def combine (r : Reading) (op : Op) : Reading :=
  match r.op with
  | none => ⟨some op, r.children⟩
  | some old => if old = op then r else ⟨some op, [.logical old r.children]⟩

def node (r : Reading) : Node := .logical (r.op.getD .and) r.children

end Reading

def negateIf (negated : Bool) (node : Node) : Node := if negated then .negation node else node

mutual

def Operand.node : Operand → Node
  | .comparison negated key value => negateIf negated (.comparison key value)
  | .group negated body => negateIf negated body.reading.node

def Phrase.reading : Phrase → Reading
  | .single x => Reading.empty.push x.node
  | .join front none x => front.reading.push x.node
  | .join front (some op) x => (front.reading.combine op).push x.node

end

def Phrase.node (p : Phrase) : Node := p.reading.node

namespace Operand

def firstKind : Operand → Kind
  | .comparison negated _ _ => if negated then .negator else .text
  | .group negated _ => if negated then .negator else .openGroup

/-- The kind of token that cannot stand right behind an operand: a text behind a comparison, a group
behind a group. -/
def barred : Operand → Kind
  | .comparison .. => .text
  | .group .. => .openGroup

def negate : Operand → Operand
  | .comparison _ key value => .comparison true key value
  | .group _ body => .group true body

theorem node_negate {x : Operand} (h : x.firstKind ≠ .negator) :
    x.negate.node = .negation x.node := by
  cases x with
  | comparison negated key value => cases negated <;> simp_all [firstKind, negate, node, negateIf]
  | group negated body => cases negated <;> simp_all [firstKind, negate, node, negateIf]

theorem isNegation_node (x : Operand) : x.node.IsNegation ↔ x.firstKind = .negator := by
  cases x with
  | comparison negated key value =>
    cases negated <;> simp [firstKind, node, negateIf, Node.IsNegation]
  | group negated body =>
    cases negated <;> simp [firstKind, node, negateIf, Node.IsNegation, Reading.node]

end Operand

namespace Phrase

def last : Phrase → Operand
  | .single x => x
  | .join _ _ x => x

theorem node_single (x : Operand) : (single x).node = .logical .and [x.node] := rfl

end Phrase

inductive Negators : Bool → List Token → Prop where
  | none : Negators false []
  | one {t : Token} : t.kind = .negator → Negators true [t]

mutual

inductive Operand.Spells : Operand → List Token → Prop where
  | comparison {negated : Bool} {ns : List Token} {key comparator value : Token} :
      Negators negated ns → key.kind = .text → comparator.kind = .comparator →
      value.kind = .text →
      Operand.Spells (.comparison negated key.text value.text) (ns ++ [key, comparator, value])
  | group {negated : Bool} {ns ts : List Token} {opening closing : Token} {body : Phrase} :
      Negators negated ns → opening.kind = .openGroup → Phrase.Spells body ts →
      closing.kind = .closeGroup →
      Operand.Spells (.group negated body) (ns ++ opening :: (ts ++ [closing]))

inductive Phrase.Spells : Phrase → List Token → Prop where
  | single {x : Operand} {ts : List Token} : Operand.Spells x ts → Phrase.Spells (.single x) ts
  | juxtaposed {front : Phrase} {x : Operand} {ts us : List Token} : Phrase.Spells front ts →
      Operand.Spells x us → x.firstKind ≠ front.last.barred →
      Phrase.Spells (.join front none x) (ts ++ us)
  | joined {front : Phrase} {x : Operand} {ts us : List Token} {t : Token} {op : Op} :
      Phrase.Spells front ts → t.kind = .logicalOperator → Op.ofText? t.text = some op →
      Operand.Spells x us → Phrase.Spells (.join front (some op) x) (ts ++ t :: us)

end

/-- Tokens that spell some phrase, whitespace apart. -/
def Derivable (tokens : List Token) : Prop := ∃ p : Phrase, p.Spells (significant tokens)

theorem Operand.Spells.negate {x : Operand} {ts : List Token} {t : Token} (h : x.Spells ts)
    (hx : x.firstKind ≠ .negator) (ht : t.kind = .negator) : x.negate.Spells (t :: ts) := by
  cases h with
  | comparison hn hk hc hv =>
    cases hn with
    | none => exact .comparison (.one ht) hk hc hv
    | one => simp [firstKind] at hx
  | group hn ho hb hc =>
    cases hn with
    | none => exact .group (.one ht) ho hb hc
    | one => simp [firstKind] at hx

end FieldQuery
