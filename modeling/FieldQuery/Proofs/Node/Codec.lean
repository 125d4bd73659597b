import FieldQuery.Proofs.Json.Written
import FieldQuery.Proofs.Node.Complaint
set_option autoImplicit false

/-! Trees written as JSON and read back. Reading undoes writing for every tree that a query can say,
and refuses every other one for its first fault. Texts are no different as long as they do not nest
too deep. -/

namespace FieldQuery.Node

mutual

theorem worded_toJson : (node : Node) → node.toJson.Worded
  | .comparison .. => ⟨trivial, trivial, trivial, trivial⟩
  | .logical _ children => ⟨trivial, worded_toJsons children, trivial⟩
  | .negation child => ⟨trivial, worded_toJson child, trivial⟩

theorem worded_toJsons : (nodes : List Node) → Json.WordedItems (toJsons nodes)
  | [] => trivial
  | node :: nodes => ⟨worded_toJson node, worded_toJsons nodes⟩

end

theorem ofJsonText_write (isPretty : Bool) (node : Node) {rest : Text}
    (hr : rest.all Json.isBlank = true) :
    ofJsonText (node.toJson.write isPretty ++ rest) =
      if node.toJson.nesting ≤ Json.maxNesting then ofJson node.toJson else .error .malformed := by
  rw [ofJsonText, Json.read?_write isPretty (worded_toJson node)]
  by_cases hn : node.toJson.nesting ≤ Json.maxNesting
  · rw [if_pos hn, if_pos hn]
    cases h : ofJson node.toJson with
    | ok read => simp [h, hr, bind, Except.bind]
    | error fault => simp [h, bind, Except.bind]
  · rw [if_neg hn, if_neg hn]

/-- An answer to a document that a tree was written as: the tree, or its first complaint. -/
structure Answers (node : Node) (answer : Except JsonFault Node) : Prop where
  ok_iff : answer = .ok node ↔ node.Everywhere Sayable
  refused : ¬ node.Everywhere Sayable →
    ∃ message, node.firstComplaint? = some message ∧ RefusedFor message answer

theorem answers_ofJson (node : Node) : Answers node (ofJson node.toJson) := by
  cases h : node.firstComplaint? with
  | none =>
    have hs := firstComplaint?_eq_none_iff.1 h
    exact ⟨⟨fun _ => hs, fun _ => ofJsonAt_toJson_of_sayable false hs⟩, fun hn => absurd hs hn⟩
  | some message =>
    have hn : ¬ node.Everywhere Sayable := by
      rw [← firstComplaint?_eq_none_iff, h]
      nofun
    have hr := refusedFor_toJson false node h
    refine ⟨⟨fun hok => ?_, fun hs => absurd hs hn⟩, fun _ => ⟨message, h, hr⟩⟩
    obtain ⟨fault, he, -⟩ := hr
    rw [ofJson, he] at hok
    cases hok

theorem sayable_of_ofJsonText {text : Text} {node : Node} (h : ofJsonText text = .ok node) :
    node.Everywhere Sayable ∧ node.toJson.nesting ≤ Json.maxNesting := by
  unfold ofJsonText at h
  split at h
  · cases h
  · next document rest hread =>
    obtain ⟨found, hf, h⟩ := exists_of_bind_eq_ok h
    split at h
    · obtain rfl := Except.ok.inj h
      have hr := readFrom_ofJson hf
      have hd := (Json.valueWithin_levels _ (Nat.le_refl _) _ _ _ hread).1
      exact ⟨hr.sayable, Nat.le_trans hr.nesting_le hd⟩
    · cases h

/-- A tree is read back from what it was written as if a query can say it, and refused for its first
fault if not; what is read from any document at all is such a tree. -/
theorem toJson_read_back (node : Node) :
    Answers node (ofJson node.toJson) ∧
      (node.toJson.nesting ≤ Json.maxNesting → ∀ isPretty,
        Answers node (ofJsonText (node.toJson.write isPretty))) ∧
      (∀ document, ofJson document = .ok node →
        node.Everywhere Sayable ∧ ofJson node.toJson = .ok node) ∧
      ∀ text, ofJsonText text = .ok node →
        node.Everywhere Sayable ∧
          ∀ isPretty, ofJsonText (node.toJson.write isPretty) = .ok node := by
  have hwrite := fun isPretty => ofJsonText_write isPretty node (List.all_nil)
  simp only [List.append_nil] at hwrite
  refine ⟨answers_ofJson node, fun hn isPretty => ?_, fun document h => ?_, fun text h => ?_⟩
  · rw [hwrite, if_pos hn]
    exact answers_ofJson node
  · have hs := (readFrom_ofJson h).sayable
    exact ⟨hs, ofJsonAt_toJson_of_sayable false hs⟩
  · obtain ⟨hs, hn⟩ := sayable_of_ofJsonText h
    refine ⟨hs, fun isPretty => ?_⟩
    rw [hwrite, if_pos hn]
    exact ofJsonAt_toJson_of_sayable false hs

theorem toJson_read_back_empty_group :
    (∃ fault, ofJsonText
        ((logical .and [negation (logical .or []), comparison [] ['1']]).toJson.write true) =
          .error fault ∧ fault.message? = some "or node has no children".toList) ∧
      ofJsonText ((Json.array [.string "not".toList, .object [("value".toList, .string ['1']),
        ("x".toList, .array []), ("key".toList, .string ['a']),
        ("operator".toList, .string "comparison".toList)]]).write false) =
          .ok (negation (comparison ['a'] ['1'])) ∧
      ofJsonText ((negation (comparison ['a'] ['1'])).toJson.write false) =
        .ok (negation (comparison ['a'] ['1'])) := by
  obtain ⟨-, hwritten, -, -⟩ :=
    toJson_read_back (logical .and [negation (logical .or []), comparison [] ['1']])
  obtain ⟨-, -, -, hread⟩ := toJson_read_back (negation (comparison ['a'] ['1']))
  have hs : ¬ (logical .and [negation (logical .or []), comparison [] ['1']]).Everywhere
      Sayable := by
    simp [Everywhere, EverywhereIn, Sayable, HasChildren]
  obtain ⟨message, hm, fault, he, hf⟩ := (hwritten (by decide) true).refused hs
  have hfirst : (logical .and [negation (logical .or []), comparison [] ['1']]).firstComplaint? =
      some "or node has no children".toList := by rfl
  refine ⟨⟨fault, he, by rw [hf, ← hm, hfirst]⟩, ?text, (hread _ ?text).2 false⟩
  rw [← List.append_nil (Json.write _ _), ofJsonText, Json.read?_write false
    (by simp [Json.Worded, Json.WordedItems, Json.WordedFields]), if_pos (by decide)]
  rfl

end FieldQuery.Node
