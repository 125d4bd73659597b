import FieldQuery.Node.Outline
import FieldQuery.Proofs.Text.Lines
import FieldQuery.Proofs.Text.Quoted
set_option autoImplicit false

namespace FieldQuery.Node

inductive Head where
  | comparison (key value : Text)
  | logical (op : Op)
  | negation
  deriving DecidableEq, Repr

def head : Node → Head
  | .comparison key value => .comparison key value
  | .logical op _ => .logical op
  | .negation _ => .negation

def comparisonLabel (key value : Text) : Text :=
  "Comparison(".toList ++ key.quoted ++ ", ".toList ++ value.quoted ++ [')']

def Head.label : Head → Text
  | .comparison key value => comparisonLabel key value
  | .logical op => op.title
  | .negation => "Not".toList

structure Row where
  level : Nat
  node : Node
  deriving Repr

mutual

def rowsAt (level : Nat) : Node → List Row
  | .comparison key value => [⟨level, .comparison key value⟩]
  | .logical op children => ⟨level, .logical op children⟩ :: rowsIn (level + 1) children
  | .negation child => ⟨level, .negation child⟩ :: rowsAt (level + 1) child

def rowsIn (level : Nat) : List Node → List Row
  | [] => []
  | node :: nodes => rowsAt level node ++ rowsIn level nodes

end

namespace Row

def line (row : Row) : Text := outlineLine row.level row.node.head.label

/-- What the line of a row says: the level, and the node without its children. -/
def said (row : Row) : Nat × Head := (row.level, row.node.head)

end Row

theorem comparisonLabel_inj {key key' value value' : Text}
    (h : comparisonLabel key value = comparisonLabel key' value') :
    key = key' ∧ value = value' := by
  unfold comparisonLabel at h
  simp only [List.append_assoc, List.append_right_inj] at h
  obtain ⟨hkey, hbehind⟩ := Text.quoted_append_inj h
  exact ⟨hkey, (Text.quoted_append_inj (List.append_cancel_left hbehind)).1⟩

theorem newline_not_mem_comparisonLabel (key value : Text) : '\n' ∉ comparisonLabel key value := by
  have hquoted := Text.not_mem_quoted_of_control (show '\n'.toNat < 0x20 by decide)
  unfold comparisonLabel
  simp [hquoted]

namespace Head

def initial : Head → Char
  | .comparison .. => 'C'
  | .logical .and => 'A'
  | .logical .or => 'O'
  | .negation => 'N'

theorem head?_label (head : Head) : head.label.head? = some head.initial := by
  cases head with
  | comparison key value =>
    rw [label, initial]
    unfold comparisonLabel
    simp
  | logical op => cases op <;> rfl
  | negation => rfl

theorem label_injective {a b : Head} (h : a.label = b.label) : a = b := by
  have hinitial : a.initial = b.initial :=
    Option.some.inj (by rw [← head?_label, ← head?_label, h])
  cases a with
  | comparison key value =>
    cases b with
    | comparison key' value' =>
      obtain ⟨rfl, rfl⟩ := comparisonLabel_inj h
      rfl
    | logical op => cases op <;> cases hinitial
    | negation => cases hinitial
  | logical op =>
    cases b with
    | comparison key value => cases op <;> cases hinitial
    | logical op' =>
      cases op with
      | and =>
        cases op' with
        | and => rfl
        | or => cases hinitial
      | or =>
        cases op' with
        | and => cases hinitial
        | or => rfl
    | negation => cases op <;> cases hinitial
  | negation =>
    cases b with
    | comparison key value => cases hinitial
    | logical op => cases op <;> cases hinitial
    | negation => rfl

theorem newline_not_mem_label (head : Head) : '\n' ∉ head.label := by
  cases head with
  | comparison key value => exact newline_not_mem_comparisonLabel key value
  | logical op => cases op <;> decide
  | negation => decide

theorem initial_ne (head : Head) : head.initial ≠ ' ' := by
  cases head with
  | comparison key value => nofun
  | logical op => cases op <;> nofun
  | negation => nofun

end Head

theorem replicate_append_inj {m n : Nat} {a b : Text} (ha : a.head? ≠ some ' ')
    (hb : b.head? ≠ some ' ') (h : List.replicate m ' ' ++ a = List.replicate n ' ' ++ b) :
    m = n ∧ a = b := by
  induction m generalizing n with
  | zero =>
    cases n with
    | zero => exact ⟨rfl, h⟩
    | succ n =>
      obtain rfl : a = ' ' :: (List.replicate n ' ' ++ b) := h
      exact absurd rfl ha
  | succ m ih =>
    cases n with
    | zero =>
      obtain rfl : ' ' :: (List.replicate m ' ' ++ a) = b := h
      exact absurd rfl hb
    | succ n =>
      obtain ⟨rfl, rfl⟩ := ih (List.cons.inj h).2
      exact ⟨rfl, rfl⟩

theorem outlineLine_label_inj {said other : Nat × Head}
    (h : outlineLine said.1 said.2.label = outlineLine other.1 other.2.label) : said = other := by
  have hlabel (head : Head) : (head.label ++ ['\n']).head? ≠ some ' ' := by
    rw [List.head?_append, Head.head?_label, Option.some_or]
    exact fun heq => head.initial_ne (Option.some.inj heq)
  simp only [outlineLine, indent, List.append_assoc] at h
  obtain ⟨hlevel, hline⟩ := replicate_append_inj (hlabel said.2) (hlabel other.2) h
  exact Prod.ext (by omega) (Head.label_injective (List.append_cancel_right hline))

theorem said_eq_of_lines_eq {rows others : List Row}
    (h : rows.map Row.line = others.map Row.line) : rows.map Row.said = others.map Row.said := by
  have hline : Row.line = (fun said : Nat × Head => outlineLine said.1 said.2.label) ∘ Row.said :=
    rfl
  rw [hline, ← List.map_map, ← List.map_map] at h
  exact (List.map_inj_right fun _ _ => outlineLine_label_inj).1 h

theorem Row.newline_not_mem (row : Row) : '\n' ∉ indent row.level ++ row.node.head.label := by
  have hindent : '\n' ∉ indent row.level := by simp [indent]
  simp [hindent, row.node.head.newline_not_mem_label]

mutual

theorem outlineAt_eq (level : Nat) : (node : Node) →
    outlineAt level node = (rowsAt level node).flatMap Row.line
  | .comparison key value => by
    rw [outlineAt, rowsAt, List.flatMap_singleton]
    rfl
  | .logical op children => by
    rw [outlineAt, rowsAt, List.flatMap_cons, ← outlinesAt_eq (level + 1) children]
    rfl
  | .negation child => by
    rw [outlineAt, rowsAt, List.flatMap_cons, ← outlineAt_eq (level + 1) child]
    rfl

theorem outlinesAt_eq (level : Nat) : (nodes : List Node) →
    outlinesAt level nodes = (rowsIn level nodes).flatMap Row.line
  | [] => rfl
  | node :: nodes => by
    rw [outlinesAt, rowsIn, List.flatMap_append, outlineAt_eq level node,
      outlinesAt_eq level nodes]

end

theorem pieces_flatMap_line (rows : List Row) :
    Text.pieces (rows.flatMap Row.line) = rows.map Row.line := by
  induction rows with
  | nil => rfl
  | cons row rows ih =>
    have hline : row.line = (indent row.level ++ row.node.head.label) ++ ['\n'] := rfl
    rw [List.flatMap_cons, List.map_cons, hline, List.append_assoc, List.singleton_append,
      Text.pieces_append_newline, Text.pieces_newline_of_not_mem row.newline_not_mem, ih]
    rfl

theorem pieces_outline (node : Node) :
    node.outline.pieces = (rowsAt 0 node).map Row.line := by
  rw [outline, outlineAt_eq, pieces_flatMap_line]

theorem rowsAt_eq_cons (level : Nat) (node : Node) :
    ∃ rows, rowsAt level node = ⟨level, node⟩ :: rows := by
  cases node <;> exact ⟨_, rfl⟩

theorem level_le_of_rowsIn {level : Nat} (nodes : List Node) {rest : List (Nat × Head)}
    (h : ∀ said ∈ rest.head?, said.1 < level) :
    ∀ said ∈ ((rowsIn level nodes).map Row.said ++ rest).head?, said.1 ≤ level := by
  cases nodes with
  | nil => exact fun said hs => Nat.le_of_lt (h said hs)
  | cons node nodes =>
    obtain ⟨rows, hrows⟩ := rowsAt_eq_cons level node
    rw [rowsIn, hrows]
    rintro said ⟨⟩
    exact Nat.le_refl level

mutual

/-- The rows of a tree end with the first one that is no deeper than its root. -/
theorem said_rowsAt_inj : (node other : Node) → ∀ {level : Nat} {rest rest' : List (Nat × Head)},
    (∀ said ∈ rest.head?, said.1 ≤ level) → (∀ said ∈ rest'.head?, said.1 ≤ level) →
    (rowsAt level node).map Row.said ++ rest = (rowsAt level other).map Row.said ++ rest' →
    node = other ∧ rest = rest'
  | .comparison key value, .comparison key' value', level, rest, rest', hr, hr', h => by
    obtain ⟨hsaid, hrest⟩ := List.cons.inj h
    cases hsaid
    exact ⟨rfl, hrest⟩
  | .logical op children, .logical op' children', level, rest, rest', hr, hr', h => by
    obtain ⟨hsaid, hrows⟩ := List.cons.inj h
    cases hsaid
    obtain ⟨rfl, hrest⟩ := said_rowsIn_inj children children'
      (fun said hs => Nat.lt_succ_of_le (hr said hs))
      (fun said hs => Nat.lt_succ_of_le (hr' said hs)) hrows
    exact ⟨rfl, hrest⟩
  | .negation child, .negation child', level, rest, rest', hr, hr', h => by
    obtain ⟨hsaid, hrows⟩ := List.cons.inj h
    obtain ⟨rfl, hrest⟩ := said_rowsAt_inj child child'
      (fun said hs => Nat.le_succ_of_le (hr said hs))
      (fun said hs => Nat.le_succ_of_le (hr' said hs)) hrows
    exact ⟨rfl, hrest⟩
  | .comparison .., .logical .., _, _, _, _, _, h => by cases (List.cons.inj h).1
  | .comparison .., .negation _, _, _, _, _, _, h => by cases (List.cons.inj h).1
  | .logical .., .comparison .., _, _, _, _, _, h => by cases (List.cons.inj h).1
  | .logical .., .negation _, _, _, _, _, _, h => by cases (List.cons.inj h).1
  | .negation _, .comparison .., _, _, _, _, _, h => by cases (List.cons.inj h).1
  | .negation _, .logical .., _, _, _, _, _, h => by cases (List.cons.inj h).1

theorem said_rowsIn_inj : (nodes others : List Node) →
    ∀ {level : Nat} {rest rest' : List (Nat × Head)},
    (∀ said ∈ rest.head?, said.1 < level) → (∀ said ∈ rest'.head?, said.1 < level) →
    (rowsIn level nodes).map Row.said ++ rest = (rowsIn level others).map Row.said ++ rest' →
    nodes = others ∧ rest = rest'
  | [], [], _, _, _, _, _, h => ⟨rfl, h⟩
  | node :: nodes, other :: others, level, rest, rest', hr, hr', h => by
    rw [rowsIn, rowsIn, List.map_append, List.map_append, List.append_assoc,
      List.append_assoc] at h
    obtain ⟨rfl, hrows⟩ := said_rowsAt_inj node other (level_le_of_rowsIn nodes hr)
      (level_le_of_rowsIn others hr') h
    obtain ⟨rfl, hrest⟩ := said_rowsIn_inj nodes others hr hr' hrows
    exact ⟨rfl, hrest⟩
  | [], other :: others, level, rest, rest', hr, hr', h => by
    obtain ⟨rows, hrows⟩ := rowsAt_eq_cons level other
    rw [rowsIn, rowsIn, hrows] at h
    exact absurd (hr (level, other.head) (by rw [show rest = _ from h]; rfl)) (Nat.lt_irrefl _)
  | node :: nodes, [], level, rest, rest', hr, hr', h => by
    obtain ⟨rows, hrows⟩ := rowsAt_eq_cons level node
    rw [rowsIn, rowsIn, hrows] at h
    exact absurd (hr' (level, node.head) (by rw [show rest' = _ from h.symm]; rfl))
      (Nat.lt_irrefl _)

end

theorem outline_inj {node other : Node} (h : node.outline = other.outline) : node = other := by
  have hlines : (rowsAt 0 node).map Row.line = (rowsAt 0 other).map Row.line := by
    rw [← pieces_outline, ← pieces_outline, h]
  have hsaid := said_eq_of_lines_eq hlines
  exact (@said_rowsAt_inj node other 0 [] [] nofun nofun (by rw [hsaid])).1

/-- Different trees have different outlines. An outline has a line for each node, in front of those
of its children: its level in indentation, then its label, which begins with no blank and holds no
newline. -/
theorem outline_determines :
    (∀ node other : Node, node.outline = other.outline ↔ node = other) ∧
    (∀ node : Node, node.outline.pieces = (rowsAt 0 node).map fun row =>
      List.replicate (2 * row.level) ' ' ++ row.node.head.label ++ ['\n']) ∧
    ∀ head : Head, head.label ≠ [] ∧ head.label.head? ≠ some ' ' ∧ '\n' ∉ head.label := by
  refine ⟨fun node other => ⟨outline_inj, congrArg outline⟩, pieces_outline, fun head => ?_⟩
  have hhead := head.head?_label
  refine ⟨fun hnil => ?_, fun hblank => ?_, head.newline_not_mem_label⟩
  · rw [hnil] at hhead
    cases hhead
  · exact head.initial_ne (Option.some.inj (hhead.symm.trans hblank))

end FieldQuery.Node
