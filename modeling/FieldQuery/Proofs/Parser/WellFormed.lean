import FieldQuery.Proofs.Grammar.Shape
import FieldQuery.Proofs.Lexeme.Tiling
import FieldQuery.Proofs.Node.Document
import FieldQuery.Proofs.Parser.Sound
set_option autoImplicit false

namespace FieldQuery

open Node

theorem Phrase.wellFormed {p : Phrase} (h : p.node.height ≤ maxDepth) : p.node.WellFormed where
  root := trivial
  hasChildren := Everywhere.imp (fun _ hs => hs.1) _ p.shaped.node
  settled := Everywhere.imp (fun _ hs => hs.2) _ p.shaped.node
  height_le := h

theorem Parser.wellFormed_of_read {σ : Type} [Cursor σ] {cursor : σ} {node : Node}
    (h : (read cursor).1 = .ok node) : node.WellFormed := by
  rw [read_conclude, conclude_eq_ok_iff] at h
  obtain ⟨-, p, -, rfl, hh⟩ := h
  exact p.wellFormed hh

theorem hasTexts_of_parseTokens {tokens : List Token} {node : Node}
    (h : parseTokens tokens = .ok node) (ht : ∀ t ∈ tokens, t.text ≠ []) :
    node.Everywhere HasTexts := by
  rw [parseTokens_conclude, Parser.conclude_eq_ok_iff] at h
  obtain ⟨-, p, hp, rfl, -⟩ := h
  exact ⟨trivial, p.hasTexts hp fun t hm => ht t (List.mem_filter.1 hm).1⟩

theorem canonical_of_parse {query : Text} {node : Node} (h : parse query = .ok node) :
    node.Canonical := by
  obtain ⟨tokens, ht, hp⟩ := exists_tokens_of_parse h
  exact (Parser.wellFormed_of_read hp).canonical
    (hasTexts_of_parseTokens hp (text_ne_nil_of_tokenize ht))

/-- Any tokens give a well-formed tree, and the tokens of a text give one that can also be read
back from its document. -/
theorem parseTokens_wellFormed {tokens : List Token} {node : Node}
    (h : parseTokens tokens = .ok node) :
    node.WellFormed ∧ ∀ text, tokenize text = .ok tokens →
      node.Everywhere HasTexts ∧ ofJson node.toJson = .ok node := by
  have hw : node.WellFormed := Parser.wellFormed_of_read h
  refine ⟨hw, fun text ht => ?_⟩
  have htexts := hasTexts_of_parseTokens h (text_ne_nil_of_tokenize ht)
  exact ⟨htexts, ofJson_toJson hw.hasChildren htexts⟩

theorem parseTokens_wellFormed_regrouped : ∃ tokens node,
    tokenize "a:1 AND b:2 OR NOT (c:3)".toList = .ok tokens ∧ parseTokens tokens = .ok node ∧
      node = .logical .or [
        .logical .and [.comparison ['a'] ['1'], .comparison ['b'] ['2']],
        .negation (.logical .and [.comparison ['c'] ['3']])] ∧
      node.WellFormed ∧ node.Everywhere HasTexts ∧ ofJson node.toJson = .ok node := by
  have h : parse "a:1 AND b:2 OR NOT (c:3)".toList = .ok (.logical .or [
      .logical .and [.comparison ['a'] ['1'], .comparison ['b'] ['2']],
      .negation (.logical .and [.comparison ['c'] ['3']])]) := by rfl
  obtain ⟨tokens, ht, hp⟩ := exists_tokens_of_parse h
  obtain ⟨hw, hs⟩ := parseTokens_wellFormed hp
  exact ⟨tokens, _, ht, hp, rfl, hw, hs _ ht⟩

end FieldQuery
