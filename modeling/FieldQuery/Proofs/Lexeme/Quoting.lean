import FieldQuery.Proofs.Token.Escape
set_option autoImplicit false

namespace FieldQuery

namespace Text

theorem escapeQuotes_cons (c : Char) (text : Text) :
    escapeQuotes (c :: text) =
      (if c = '"' ∨ c = '\\' then ['\\', c] else [c]) ++ escapeQuotes text := rfl

theorem quotedBody_escapeQuotes (text : Text) : Lexeme.QuotedBody text.escapeQuotes := by
  induction text with
  | nil => exact .nil
  | cons c text ih =>
    rw [escapeQuotes_cons]
    split
    · exact .escaped ih
    · next h =>
      rw [not_or] at h
      exact .plain h.1 h.2 ih

end Text

namespace Token

theorem escape_of_quote_or_backslash {c : Char} (h : c = '"' ∨ c = '\\') (rest : Text) :
    escape c rest = (c, rest) := by
  rcases h with rfl | rfl <;> rfl

theorem unescape_escapeQuotes (text : Text) : unescape text.escapeQuotes = text := by
  induction text with
  | nil => rfl
  | cons c text ih =>
    rw [Text.escapeQuotes_cons]
    split
    · next hc =>
      have he := escape_of_quote_or_backslash hc (Text.escapeQuotes text)
      exact (unescape_escape he).trans (congrArg _ ih)
    · next hc =>
      rw [not_or] at hc
      exact (unescape_plain hc.2).trans (congrArg _ ih)

end Token

namespace Lexeme

def operand (text : Text) : Lexeme := ⟨.text, text, text.asOperand⟩

theorem operand_standsBefore {text rest : Text} (h : text ≠ [])
    (hr : ∀ c ∈ rest.head?, isWordChar c = false) : (operand text).StandsBefore rest := by
  unfold operand Text.asOperand
  split
  · next hb =>
    simp only [Text.isBare, Bool.and_eq_true, Bool.not_eq_true', List.all_eq_true] at hb
    exact .word h hb.2 hb.1.2 hr
  · have hne : text.escapeQuotes ≠ [] := by
      intro he
      have hu := Token.unescape_escapeQuotes text
      rw [he] at hu
      exact h hu.symm
    have hq : StandsBefore ⟨.text, Token.unescape text.escapeQuotes,
        '"' :: text.escapeQuotes ++ ['"']⟩ rest := .quoted hne text.quotedBody_escapeQuotes
    rwa [Token.unescape_escapeQuotes] at hq

end Lexeme

end FieldQuery
