import FieldQuery.Node.Printed
import FieldQuery.Proofs.Node.Codec
import FieldQuery.Proofs.Node.Written
import FieldQuery.Proofs.Parser.WellFormed
set_option autoImplicit false

/-! Queries that are printed as JSON and read back. Two limits meet here that were not set with each
other in mind: the parser bounds the height of a tree, the reader of texts how deep arrays and
objects nest, and a group takes one of each. -/

namespace FieldQuery.Node

mutual

theorem height_le_nesting : (node : Node) → node.height ≤ node.toJson.nesting
  | .comparison .. => Nat.le_refl _
  | .logical op children => by
    have hc := heights_le_nesting children
    rw [nesting_toJson_logical, height, Json.nesting]
    omega
  | .negation child => by
    have hc := height_le_nesting child
    rw [nesting_toJson_negation, height]
    omega

theorem heights_le_nesting : (nodes : List Node) →
    heights nodes ≤ Json.nestingOfItems (toJsons nodes)
  | [] => Nat.le_refl _
  | node :: nodes => by
    have hn := height_le_nesting node
    have hs := heights_le_nesting nodes
    rw [heights, toJsons, Json.nestingOfItems]
    omega

end

mutual

/-- A group takes an object and an array, and what stands in a group that is not empty is one level
down. -/
theorem nesting_lt_two_mul_height : (node : Node) → node.Everywhere HasChildren →
    node.toJson.nesting < 2 * node.height
  | .comparison .., _ => by simp [height]
  | .logical op children, h => by
    have hc := nesting_le_two_mul_heights children h.2
    have hp := heights_pos h.1
    rw [nesting_toJson_logical, height, Json.nesting]
    omega
  | .negation child, h => by
    have hc := nesting_lt_two_mul_height child h.2
    rw [nesting_toJson_negation, height]
    omega

theorem nesting_le_two_mul_heights : (nodes : List Node) → EverywhereIn HasChildren nodes →
    Json.nestingOfItems (toJsons nodes) ≤ 2 * heights nodes - 1
  | [], _ => Nat.le_refl _
  | node :: nodes, h => by
    have hn := nesting_lt_two_mul_height node h.1
    have hs := nesting_le_two_mul_heights nodes h.2
    rw [heights, toJsons, Json.nestingOfItems]
    omega

end

theorem ofJsonText_printed {query : Text} {node : Node} (h : parse query = .ok node)
    (isPretty : Bool) : ofJsonText (node.printed .json isPretty false) =
      if node.toJson.nesting ≤ Json.maxNesting then .ok node else .error .malformed := by
  have hc := canonical_of_parse h
  rw [← ofJson_toJson hc.hasChildren hc.hasTexts]
  exact ofJsonText_write isPretty node (by decide)

/-- A tree that was parsed is read back from the JSON that is printed of it if that nests less than
128 deep, as it does for every tree of at most 64 levels, and refused if it nests deeper, as it does
for every tree of more than 127. -/
theorem printed_json_read_back_iff {query : Text} {node : Node} (h : parse query = .ok node)
    (isPretty : Bool) :
    (ofJsonText (node.printed .json isPretty false) = .ok node ↔
        node.toJson.nesting ≤ Json.maxNesting) ∧
      (Json.maxNesting < node.toJson.nesting →
        ofJsonText (node.printed .json isPretty false) = .error .malformed) ∧
      node.height ≤ node.toJson.nesting ∧ node.toJson.nesting < 2 * node.height := by
  rw [ofJsonText_printed h]
  exact ⟨by simp, fun hn => if_neg (by omega), height_le_nesting node,
    nesting_lt_two_mul_height node (canonical_of_parse h).hasChildren⟩

/-- A comparison in so many groups of one operand, the root among them. -/
def enclosed (groups : Nat) : Node :=
  Nat.repeat (fun node => logical .and [node]) groups (comparison ['a'] ['1'])

theorem height_enclosed (groups : Nat) : (enclosed groups).height = groups + 1 := by
  induction groups with
  | zero => rfl
  | succ groups ih =>
    change (logical .and [enclosed groups]).height = _
    simp [height, heights, ih]

theorem nesting_enclosed (groups : Nat) : (enclosed groups).toJson.nesting = 2 * groups + 1 := by
  induction groups with
  | zero => rfl
  | succ groups ih =>
    change (logical .and [enclosed groups]).toJson.nesting = _
    rw [nesting_toJson_logical, toJsons, toJsons, Json.nesting, Json.nestingOfItems,
      Json.nestingOfItems, ih]
    omega

theorem exists_cutsTo_enclosed (groups : Nat) : ∃ x : Operand, x.node = enclosed groups ∧
    Text.CutsTo (Nat.repeat parenthesized groups "a:1".toList) x.Spells := by
  induction groups with
  | zero =>
    have hq : "a:1".toList = comparisonQuery ['a'] ['1'] := by decide
    rw [Nat.repeat, hq]
    exact ⟨.comparison false ['a'] ['1'], rfl, Text.CutsTo.comparison (by simp) (by simp)⟩
  | succ groups ih =>
    obtain ⟨x, hx, hc⟩ := ih
    refine ⟨.group false (.single x), ?_, hc.single.group⟩
    change logical .and [x.node] = logical .and [enclosed groups]
    rw [hx]

theorem parse_enclosed {groups : Nat} (h : groups + 2 ≤ maxDepth) :
    parse (Nat.repeat parenthesized groups "a:1".toList) = .ok (enclosed (groups + 1)) := by
  obtain ⟨x, hx, hc⟩ := exists_cutsTo_enclosed groups
  have hn : (Phrase.single x).node = enclosed (groups + 1) := by
    rw [Phrase.node_single, hx, enclosed, enclosed, Nat.repeat]
  rw [← hn]
  refine hc.single.parse_of_height_le ?_
  rw [hn, height_enclosed]
  exact h

theorem printed_json_read_back_iff_parentheses :
    parse (Nat.repeat parenthesized 62 "a:1".toList) = .ok (enclosed 63) ∧
      ofJsonText ((enclosed 63).printed .json true false) = .ok (enclosed 63) := by
  have h : parse (Nat.repeat parenthesized 62 "a:1".toList) = .ok (enclosed 63) :=
    parse_enclosed (by decide)
  refine ⟨h, (printed_json_read_back_iff h true).1.2 ?_⟩
  rw [nesting_enclosed]
  decide

/-- One more pair of parentheses, and the tree is refused that was printed in its own form. -/
theorem printed_json_not_read_back :
    parse (Nat.repeat parenthesized 63 "a:1".toList) = .ok (enclosed 64) ∧
      ofJsonText ((enclosed 64).printed .json false false) = .error .malformed ∧
      ofJsonText ((enclosed 64).printed .json true false) = .error .malformed := by
  have h : parse (Nat.repeat parenthesized 63 "a:1".toList) = .ok (enclosed 64) :=
    parse_enclosed (by decide)
  have hn : ¬ (enclosed 64).toJson.nesting ≤ Json.maxNesting := by
    rw [nesting_enclosed]
    decide
  exact ⟨h, (ofJsonText_printed h false).trans (if_neg hn),
    (ofJsonText_printed h true).trans (if_neg hn)⟩

end FieldQuery.Node
