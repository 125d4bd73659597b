import FieldQuery.Proofs.Grammar.Columns
import FieldQuery.Proofs.Node.Written
set_option autoImplicit false

namespace FieldQuery

namespace Lexeme

theorem head?_append_forall {P : Char → Prop} {front back : Text} (hf : ∀ c ∈ front.head?, P c)
    (hb : ∀ c ∈ back.head?, P c) : ∀ c ∈ (front ++ back).head?, P c := by
  cases front with
  | nil => exact hb
  | cons c front => exact hf

variable {more : Text}

theorem StandsBefore.append {lexeme : Lexeme} {rest : Text} (h : lexeme.StandsBefore rest)
    (hw : ∀ c ∈ more.head?, isWordChar c = false)
    (hb : ∀ c ∈ more.head?, Unicode.isWhitespace c = false) :
    lexeme.StandsBefore (rest ++ more) := by
  cases h with
  | openGroup => exact .openGroup
  | closeGroup => exact .closeGroup
  | comparator => exact .comparator
  | operator op => exact .operator op
  | negator => exact .negator
  | quoted hne hq => exact .quoted hne hq
  | blank hne hs hr => exact .blank hne hs (head?_append_forall hr hb)
  | word hne hs hk hr => exact .word hne hs hk (head?_append_forall hr hw)

theorem Lexes.append_text {text rest : Text} {lexemes : List Lexeme} (h : Lexes text lexemes rest)
    (hw : ∀ c ∈ more.head?, isWordChar c = false)
    (hb : ∀ c ∈ more.head?, Unicode.isWhitespace c = false) :
    Lexes (text ++ more) lexemes (rest ++ more) := by
  induction h with
  | done => exact .done
  | cons hf _ ih =>
    obtain ⟨rfl, hs⟩ := first?_eq_some_iff.1 hf
    rw [List.append_assoc]
    exact (hs.append hw hb).lexes ih

def shifted (columns : Nat) (t : Token) : Token := { t with column := columns + t.column }

theorem moves_shifted (columns : Nat) : Token.Moves (shifted columns) :=
  ⟨fun _ => rfl, fun _ => rfl⟩

theorem placed_add (columns column : Nat) (lexemes : List Lexeme) :
    placed (columns + column) lexemes = (placed column lexemes).map (shifted columns) := by
  induction lexemes generalizing column with
  | nil => rfl
  | cons lexeme lexemes ih =>
    have hc : columns + column + lexeme.span.length =
        columns + (column + lexeme.span.length) := by omega
    rw [placed, hc, ih]
    rfl

end Lexeme

open Lexeme Node

theorem exists_cutsTo_parenthesized {query : Text} {node : Node} (h : parse query = .ok node) :
    ∃ p : Phrase, p.node = node ∧
      Text.CutsTo (parenthesized query) (Operand.group false p).Spells := by
  obtain ⟨lexemes, rest, hl, hr⟩ := exists_lexes query
  rw [parse_of_lexes hl hr] at h
  obtain ⟨hstop, p, hp, hn, -⟩ := Parser.conclude_eq_ok_iff.1 h
  have hrest : rest = [] := by simpa [Tokenizer.failure] using hstop
  subst hrest
  refine ⟨p, hn, .parenthesized fun rest => ⟨lexemes, ?_, fun column => ?_⟩⟩
  · exact hl.append_text (by simp; decide) (by simp; decide)
  · have hs := hp.map (moves_shifted column) p
    rwa [← significant_map (moves_shifted column), ← placed_add] at hs

/-- Queries are composed in parentheses, and each keeps its own tree. -/
theorem parse_parenthesized {query query' : Text} {node node' : Node}
    (h : parse query = .ok node) (h' : parse query' = .ok node')
    (hh : node.height ≤ maxDepth - 1) (hh' : node'.height ≤ maxDepth - 1) :
    (∀ op : Op, parse (parenthesized query ++ ([' '] ++ op.keyword ++ [' '] ++
        parenthesized query')) = .ok (.logical op [node, node'])) ∧
      parse (parenthesized query) = .ok (.logical .and [node]) ∧
      (node.height ≤ maxDepth - 2 →
        parse ("NOT ".toList ++ parenthesized query) = .ok (.logical .and [.negation node])) := by
  obtain ⟨p, rfl, hp⟩ := exists_cutsTo_parenthesized h
  obtain ⟨p', rfl, hp'⟩ := exists_cutsTo_parenthesized h'
  have hmax : maxDepth = 256 := rfl
  refine ⟨fun op => ?_, ?_, fun hd => ?_⟩
  · have hn : (Phrase.join (.single (.group false p)) (some op) (.group false p')).node =
        .logical op [p.node, p'.node] := rfl
    have hc := (hp.single.join op hp').parse_of_height_le
    rw [hn, Node.height, Node.heights, Node.heights, Node.heights] at hc
    exact hc (by omega)
  · have hn : (Phrase.single (.group false p)).node = .logical .and [p.node] := rfl
    have hc := hp.single.parse_of_height_le
    rw [hn, Node.height, Node.heights, Node.heights] at hc
    exact hc (by omega)
  · have hn : (Phrase.single (.group true p)).node = .logical .and [.negation p.node] := rfl
    have hc := (hp.negate (by simp [Operand.firstKind])).single.parse_of_height_le
    rw [Operand.negate, hn, Node.height, Node.heights, Node.heights, Node.height] at hc
    exact hc (by omega)

theorem parse_parenthesized_quoted :
    parse " a:1 OR b:\"OR\" AND NOT c:x ".toList = .ok (.logical .and [
      .logical .or [.comparison ['a'] ['1'], .comparison ['b'] "OR".toList],
      .negation (.comparison ['c'] ['x'])]) ∧
    parse "d:\")\"".toList = .ok (.logical .and [.comparison ['d'] [')']]) ∧
    parse "( a:1 OR b:\"OR\" AND NOT c:x ) OR (d:\")\")".toList = .ok (.logical .or [
      .logical .and [.logical .or [.comparison ['a'] ['1'], .comparison ['b'] "OR".toList],
        .negation (.comparison ['c'] ['x'])],
      .logical .and [.comparison ['d'] [')']]]) ∧
    parse "NOT ( a:1 OR b:\"OR\" AND NOT c:x )".toList = .ok (.logical .and [.negation (
      .logical .and [.logical .or [.comparison ['a'] ['1'], .comparison ['b'] "OR".toList],
        .negation (.comparison ['c'] ['x'])])]) := by
  have h : parse " a:1 OR b:\"OR\" AND NOT c:x ".toList = .ok (.logical .and [
      .logical .or [.comparison ['a'] ['1'], .comparison ['b'] "OR".toList],
      .negation (.comparison ['c'] ['x'])]) := by rfl
  have h' : parse "d:\")\"".toList = .ok (.logical .and [.comparison ['d'] [')']]) := by rfl
  obtain ⟨hjoined, -, hnegated⟩ := parse_parenthesized h h' (by decide) (by decide)
  exact ⟨h, h', hjoined .or, hnegated (by decide)⟩

end FieldQuery
