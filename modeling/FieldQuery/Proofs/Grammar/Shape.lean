import FieldQuery.Proofs.Grammar
set_option autoImplicit false

namespace FieldQuery

open Node

/-- What holds at every node of a phrase's tree, whatever its texts are. -/
def Node.Shaped (node : Node) : Prop := node.HasChildren ∧ node.Settled

structure Reading.Shaped (r : Reading) : Prop where
  children_ne_nil : r.children ≠ []
  two_le_length : r.op ≠ none → 2 ≤ r.children.length
  everywhere : EverywhereIn Node.Shaped r.children

namespace Reading

theorem Shaped.node {r : Reading} (h : r.Shaped) : r.node.Everywhere Node.Shaped := by
  refine ⟨⟨h.children_ne_nil, fun ho => h.two_le_length fun hn => ?_⟩, h.everywhere⟩
  simp [hn] at ho

theorem Shaped.negateIf {r : Reading} (h : r.Shaped) (negated : Bool) :
    (negateIf negated r.node).Everywhere Node.Shaped := by
  cases negated with
  | false => exact h.node
  | true => exact ⟨⟨trivial, id⟩, h.node⟩

theorem Shaped.push {r : Reading} {node : Node} (h : r.Shaped) (hn : node.Everywhere Node.Shaped) :
    (r.push node).Shaped := by
  refine ⟨by simp [Reading.push], fun ho => ?_, ?_⟩
  · have hl := h.two_le_length ho
    simp only [Reading.push, List.length_append]
    omega
  · exact everywhereIn_append.2 ⟨h.everywhere, hn, trivial⟩

theorem Shaped.combine_push {r : Reading} {op : Op} {node : Node} (h : r.Shaped)
    (hn : node.Everywhere Node.Shaped) : ((r.combine op).push node).Shaped := by
  have hpos := List.length_pos_iff.2 h.children_ne_nil
  unfold combine
  cases hop : r.op with
  | none =>
    refine ⟨by simp [Reading.push], fun _ => ?_, everywhereIn_append.2 ⟨h.everywhere, hn, trivial⟩⟩
    simp only [Reading.push, List.length_append, List.length_singleton]
    omega
  | some old =>
    by_cases ho : old = op
    · simp only [ho, if_true]
      exact h.push hn
    · have hlogical : (Node.logical old r.children).Everywhere Node.Shaped := by
        have hnode := h.node
        rwa [Reading.node, hop] at hnode
      simp only [ho, if_false]
      exact ⟨by simp [Reading.push], fun _ => by simp [Reading.push], hlogical, hn, trivial⟩

end Reading

mutual

theorem Operand.shaped : (x : Operand) → x.node.Everywhere Node.Shaped
  | .comparison true _ _ => ⟨⟨trivial, id⟩, trivial, trivial⟩
  | .comparison false _ _ => ⟨trivial, trivial⟩
  | .group negated body => body.shaped.negateIf negated

theorem Phrase.shaped : (p : Phrase) → p.reading.Shaped
  | .single x => ⟨by simp [Phrase.reading, Reading.push], fun h => absurd rfl h, x.shaped, trivial⟩
  | .join front none x => front.shaped.push x.shaped
  | .join front (some _) x => front.shaped.combine_push x.shaped

end

theorem Reading.hasTexts_combine {r : Reading} (op : Op)
    (h : EverywhereIn HasTexts r.children) : EverywhereIn HasTexts (r.combine op).children := by
  unfold combine
  cases r.op with
  | none => exact h
  | some old =>
    by_cases ho : old = op
    · simpa [ho] using h
    · simpa [ho] using ⟨⟨trivial, h⟩, trivial⟩

theorem hasTexts_negateIf {node : Node} (negated : Bool) (h : node.Everywhere HasTexts) :
    (negateIf negated node).Everywhere HasTexts := by
  cases negated with
  | false => exact h
  | true => exact ⟨trivial, h⟩

mutual

theorem Operand.hasTexts (x : Operand) {ts : List Token} (h : x.Spells ts)
    (hts : ∀ t ∈ ts, t.text ≠ []) : x.node.Everywhere HasTexts := by
  match x, h with
  | .comparison negated _ _, .comparison _ _ _ _ =>
    exact hasTexts_negateIf negated ⟨hts _ (by simp), hts _ (by simp)⟩
  | .group negated body, .group _ _ hb _ =>
    have hbody := body.hasTexts hb fun t ht => hts t (by simp [ht])
    exact hasTexts_negateIf negated ⟨trivial, hbody⟩

theorem Phrase.hasTexts (p : Phrase) {ts : List Token} (h : p.Spells ts)
    (hts : ∀ t ∈ ts, t.text ≠ []) : EverywhereIn HasTexts p.reading.children := by
  match p, h with
  | .single x, .single hx => exact ⟨x.hasTexts hx hts, trivial⟩
  | .join front none x, .juxtaposed hf hx _ =>
    have hfront := front.hasTexts hf fun t ht => hts t (by simp [ht])
    have hlast := x.hasTexts hx fun t ht => hts t (by simp [ht])
    exact everywhereIn_append.2 ⟨hfront, hlast, trivial⟩
  | .join front (some op) x, .joined hf _ _ hx =>
    have hfront := front.hasTexts hf fun t ht => hts t (by simp [ht])
    have hlast := x.hasTexts hx fun t ht => hts t (by simp [ht])
    exact everywhereIn_append.2 ⟨Reading.hasTexts_combine op hfront, hlast, trivial⟩

end

end FieldQuery
