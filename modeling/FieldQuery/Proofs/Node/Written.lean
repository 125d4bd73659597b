import FieldQuery.Proofs.Lexeme.Quoting
import FieldQuery.Proofs.Parser.Sound
import FieldQuery.Proofs.Tokenizer
set_option autoImplicit false

namespace FieldQuery

open Lexeme

/-- The tokens of a text have a property whatever follows it, and it can stand behind a blank. -/
structure Text.CutsTo (text : Text) (P : List Token → Prop) : Prop where
  not_blank : ∃ c ∈ text.head?, Unicode.isWhitespace c = false
  lexes : ∀ rest : Text, (∀ c ∈ rest.head?, isWordChar c = false) →
    ∃ lexemes, Lexes (text ++ rest) lexemes rest ∧
      ∀ column, P (significant (placed column lexemes))

theorem Op.not_blank_keyword (op : Op) :
    ∃ c ∈ op.keyword.head?, Unicode.isWhitespace c = false := by
  cases op
  · exact ⟨'A', rfl, by decide⟩
  · exact ⟨'O', rfl, by decide⟩

namespace Lexeme

theorem StandsBefore.lexes {lexeme : Lexeme} {middle rest : Text} {lexemes : List Lexeme}
    (h : lexeme.StandsBefore middle) (hl : Lexes middle lexemes rest) :
    Lexes (lexeme.span ++ middle) (lexeme :: lexemes) rest :=
  .cons h.first? hl

def space : Lexeme := verbatim .whitespace [' ']

theorem space_standsBefore {text rest : Text}
    (h : ∃ c ∈ text.head?, Unicode.isWhitespace c = false) :
    space.StandsBefore (text ++ rest) := by
  obtain ⟨c, hc, hw⟩ := h
  refine .blank (by simp) (List.all_eq_true.1 (by decide)) ?_
  intro d hd
  rw [List.head?_append, Option.mem_def.1 hc] at hd
  obtain rfl := Option.some.inj hd
  exact hw

end Lexeme

namespace Text

theorem not_blank_append {text : Text} (h : ∃ c ∈ text.head?, Unicode.isWhitespace c = false)
    (more : Text) : ∃ c ∈ (text ++ more).head?, Unicode.isWhitespace c = false := by
  obtain ⟨c, hc, hw⟩ := h
  exact ⟨c, by simp [List.head?_append, Option.mem_def.1 hc], hw⟩

theorem not_blank_asOperand (text : Text) :
    ∃ c ∈ text.asOperand.head?, Unicode.isWhitespace c = false := by
  unfold asOperand
  split
  · next h =>
    cases text with
    | nil => simp [isBare] at h
    | cons c text =>
      simp only [isBare, Bool.and_eq_true, List.all_eq_true] at h
      have hc := h.2 c (by simp)
      cases hw : Unicode.isWhitespace c with
      | false => exact ⟨c, by simp, hw⟩
      | true => simp [isWordChar_eq_false_of_isWhitespace hw] at hc
  · exact ⟨'"', by simp, by decide⟩

variable {text : Text} {P Q : List Token → Prop}

theorem CutsTo.imp (h : text.CutsTo P) (hpq : ∀ ts, P ts → Q ts) : text.CutsTo Q := by
  refine ⟨h.not_blank, fun rest hr => ?_⟩
  obtain ⟨lexemes, hl, hp⟩ := h.lexes rest hr
  exact ⟨lexemes, hl, fun column => hpq _ (hp column)⟩

theorem CutsTo.comparison {key value : Text} (hk : key ≠ []) (hv : value ≠ []) :
    CutsTo (Node.comparisonQuery key value) (Operand.comparison false key value).Spells := by
  constructor
  · exact not_blank_append (not_blank_append key.not_blank_asOperand _) _
  · intro rest hr
    have hvalue := (operand_standsBefore hv hr).lexes .done
    have hcolon := StandsBefore.comparator.lexes hvalue
    have hkey := (operand_standsBefore hk (by simp [verbatim]; decide)).lexes hcolon
    refine ⟨_, by simpa [Node.comparisonQuery, operand, verbatim] using hkey, fun column => ?_⟩
    exact @Operand.Spells.comparison false [] ⟨.text, key, _⟩ ⟨.comparator, [':'], _⟩
      ⟨.text, value, _⟩ .none rfl rfl rfl

theorem CutsTo.parenthesized {p : Phrase} (h : ∀ rest : Text, ∃ lexemes,
    Lexes (text ++ ')' :: rest) lexemes (')' :: rest) ∧
      ∀ column, p.Spells (significant (placed column lexemes))) :
    CutsTo (Node.parenthesized text) (Operand.group false p).Spells := by
  constructor
  · exact ⟨'(', by simp [Node.parenthesized], by decide⟩
  · intro rest _
    obtain ⟨lexemes, hl, hp⟩ := h rest
    have hclose := StandsBefore.closeGroup.lexes (Lexes.done : Lexes rest [] rest)
    have hopen := StandsBefore.openGroup.lexes (hl.append hclose)
    refine ⟨_, by simpa [Node.parenthesized, verbatim] using hopen, fun column => ?_⟩
    rw [placed, significant_cons_of_ne (by simp), placed_append, significant_append]
    exact Operand.Spells.group .none rfl (hp _) rfl

theorem CutsTo.group {p : Phrase} (h : text.CutsTo p.Spells) :
    CutsTo (Node.parenthesized text) (Operand.group false p).Spells :=
  .parenthesized fun rest => h.lexes (')' :: rest) (by simp; decide)

theorem CutsTo.negate {x : Operand} (h : text.CutsTo x.Spells) (hx : x.firstKind ≠ .negator) :
    CutsTo ("NOT ".toList ++ text) x.negate.Spells := by
  constructor
  · exact ⟨'N', by simp, by decide⟩
  · intro rest hr
    obtain ⟨lexemes, hl, hs⟩ := h.lexes rest hr
    have hnot := StandsBefore.negator.lexes ((space_standsBefore h.not_blank).lexes hl)
    exact ⟨_, hnot, fun column => (hs _).negate hx rfl⟩

theorem CutsTo.single {x : Operand} (h : text.CutsTo x.Spells) :
    text.CutsTo (Phrase.single x).Spells :=
  h.imp fun _ => .single

theorem CutsTo.join {front : Phrase} {x : Operand} {more : Text} (op : Op)
    (hf : text.CutsTo front.Spells) (hx : more.CutsTo x.Spells) :
    CutsTo (text ++ ([' '] ++ op.keyword ++ [' '] ++ more))
      (Phrase.join front (some op) x).Spells := by
  constructor
  · exact not_blank_append hf.not_blank _
  · intro rest hr
    obtain ⟨back, hb, hbs⟩ := hx.lexes rest hr
    have hop := (StandsBefore.operator op).lexes ((space_standsBefore hx.not_blank).lexes hb)
    have hblank := (space_standsBefore op.not_blank_keyword).lexes hop
    -- The blank ends the last word of the front, so its tokens are those it has alone.
    obtain ⟨lexemes, hl, hfs⟩ := hf.lexes ([' '] ++ (op.keyword ++ ([' '] ++ (more ++ rest))))
      (by simp; decide)
    refine ⟨_, by simpa [space, verbatim] using hl.append hblank, fun column => ?_⟩
    rw [placed_append, significant_append]
    exact Phrase.Spells.joined (hfs column) rfl op.ofText?_keyword (hbs _)

theorem CutsTo.parse_eq {p : Phrase} (h : text.CutsTo p.Spells) :
    parse text = .ok p.node ∨
      (∃ column, parse text = .error (.semantic .tooDeep column)) ∧ maxDepth < p.node.height := by
  obtain ⟨lexemes, hl, hs⟩ := h.lexes [] (by simp)
  rw [List.append_nil] at hl
  rw [parse_of_lexes hl rfl]
  exact Parser.conclude_phrase (hs 0)

theorem CutsTo.parse_of_height_le {p : Phrase} (h : text.CutsTo p.Spells)
    (hh : p.node.height ≤ maxDepth) : parse text = .ok p.node :=
  h.parse_eq.resolve_right fun ht => absurd ht.2 (by omega)

end Text

end FieldQuery
