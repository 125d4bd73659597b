import FieldQuery.Token.Listing
import FieldQuery.Proofs.Table
import FieldQuery.Proofs.Text.Quoted
set_option autoImplicit false

namespace FieldQuery

theorem parts_resetCode : Unicode.Parts resetCode := Unicode.parts_sgr rfl

theorem dyed_of_reset {line plain : Text} (h : '\x1b' ∉ plain)
    (hl : line = plain ∨ line = plain ++ resetCode) : Table.Dyed line plain := by
  rcases hl with rfl | rfl
  · exact .self h
  · refine ⟨?_, ?_⟩
    · have hshows := (Text.Shows.self h).append shows_resetCode
      rwa [List.append_nil] at hshows
    · rw [Unicode.textWidth_append_parts parts_resetCode]
      exact Nat.le_add_right _ _

theorem dyes_painted (style : Style) {text : Text} (h : '\x1b' ∉ text) :
    Table.Dyes True (painted true style text) text := by
  have hreset : List.Forall₂ Table.Dyed (Table.cellLines (text ++ resetCode))
      (Table.cellLines text) := by
    obtain ⟨hlength, hline⟩ :=
      List.forall₂_iff_zip.1 (Text.splitOn_append_right (by decide : '\n' ∉ resetCode) text)
    exact List.forall₂_iff_zip.2 ⟨hlength, fun hmem =>
      dyed_of_reset (Table.not_mem_of_mem_cellLines h (List.of_mem_zip hmem).2) (hline hmem)⟩
  have hnewline : '\n' ∉ style.codes := by cases style <;> decide
  have hpos : 0 < style.codes.length := by cases style <;> decide
  obtain ⟨line, lines, hlines⟩ :=
    List.exists_cons_of_ne_nil (Table.cellLines_ne_nil (text ++ resetCode))
  obtain ⟨plain, plains, hplains⟩ := List.exists_cons_of_ne_nil (Table.cellLines_ne_nil text)
  rw [hlines, hplains] at hreset
  obtain ⟨hfirst, hothers⟩ := List.forall₂_cons.1 hreset
  -- The codes are in front of the first line, the reset may be behind a later one.
  have hpainted : Table.cellLines (painted true style text) = (style.codes ++ line) :: lines := by
    rw [painted, if_pos rfl, List.append_assoc]
    exact Text.splitOn_append_left hnewline hlines
  have hle := hfirst.textWidth_le
  have hwidth := Unicode.textWidth_append_of_parts (Unicode.parts_codes style) line
  refine ⟨?_, fun _ => ?_, absurd trivial⟩
  · rw [hpainted, hplains]
    exact .cons ⟨style.shows_codes.append hfirst.shows, by omega⟩ hothers
  · simp only [Table.lineAt, hpainted, hplains, List.getElem?_cons_zero, Option.getD_some]
    omega

namespace Token

theorem not_mem_shown {t : Token} (h : '\x1b' ∉ t.text) : '\x1b' ∉ t.shown false := by
  unfold shown
  split
  case h_4 => exact Text.not_mem_quoted_of_control (by decide) t.text
  all_goals exact h

theorem shown_cases (t : Token) :
    (t.kind ∈ [.openGroup, .closeGroup, .comparator] ∧ t.shown true = t.shown false) ∨
      (t.kind ∉ [.openGroup, .closeGroup, .comparator] ∧
        ∃ style : Style, t.shown true = painted true style (t.shown false)) := by
  obtain ⟨kind, text, column⟩ := t
  cases kind with
  | text => exact .inr ⟨by simp, .value, rfl⟩
  | whitespace => exact .inr ⟨by simp, .dim, rfl⟩
  | openGroup => exact .inl ⟨by simp, rfl⟩
  | closeGroup => exact .inl ⟨by simp, rfl⟩
  | logicalOperator => exact .inr ⟨by simp, .keyword, rfl⟩
  | negator => exact .inr ⟨by simp, .keyword, rfl⟩
  | comparator => exact .inl ⟨by simp, rfl⟩

theorem dyes_shown {t : Token} (h : '\x1b' ∉ t.text) :
    Table.Dyes (t.kind ∉ [.openGroup, .closeGroup, .comparator]) (t.shown true)
      (t.shown false) := by
  rcases t.shown_cases with ⟨hkind, heq⟩ | ⟨hkind, style, heq⟩
  · rw [heq]
    exact (Table.Dyes.self (not_mem_shown h)).of_iff (by simp [hkind])
  · rw [heq]
    exact (dyes_painted style (not_mem_shown h)).of_iff (by simp [hkind])

def shownWidth (color : Bool) (tokens : List Token) : Nat :=
  Table.widest ("Text".toList :: tokens.map (shown color))

theorem not_mem_decimal (n : Nat) : '\x1b' ∉ Text.decimal n := fun h =>
  absurd (Nat.isDigit_of_mem_toDigits (by decide) (by decide) h) (by decide)

theorem not_mem_name (kind : Kind) : '\x1b' ∉ kind.name := by cases kind <;> decide

def tableWidths (tokens : List Token) (width : Nat) : List Nat :=
  [Table.widest ("Column".toList :: tokens.map fun t => Text.decimal t.column),
    Table.widest ("Kind".toList :: tokens.map fun t => t.kind.name), width]

theorem columnWidths_table (color : Bool) (tokens : List Token) :
    Table.columnWidths tableHeader.length (tableHeader :: tokens.map (tableRow color)) =
      tableWidths tokens (shownWidth color tokens) :=
  Table.columnWidths_three _ _ _ _ _ _ tokens

theorem table_eq (color : Bool) (tokens : List Token) : table color tokens =
    Table.drawRule Table.topRule (tableWidths tokens (shownWidth color tokens)) ++ '\n' ::
      Table.body (tableWidths tokens (shownWidth color tokens)) tableHeader
        (tokens.map (tableRow color)) :=
  Table.draw_eq _ _ (columnWidths_table color tokens)

theorem cellWidth_le_shownWidth (color : Bool) {tokens : List Token} {cell : Text}
    (h : cell ∈ "Text".toList :: tokens.map (shown color)) :
    Table.cellWidth cell ≤ shownWidth color tokens :=
  Table.cellWidth_le_widest h

theorem showsUnless_body {tokens : List Token} (h : ∀ t ∈ tokens, '\x1b' ∉ t.text) :
    Text.ShowsUnless (∃ t ∈ tokens, t.kind ∉ [.openGroup, .closeGroup, .comparator])
      (Table.body (tableWidths tokens (shownWidth true tokens)) tableHeader
        (tokens.map (tableRow true)))
      (Table.body (tableWidths tokens (shownWidth true tokens)) tableHeader
        (tokens.map (tableRow false))) := by
  refine Table.showsUnless_body ?_ fun t ht => ?_
  · exact Table.showsUnless_rowText (by decide) (by decide) (.self (by decide))
      (cellWidth_le_shownWidth true List.mem_cons_self)
  · exact Table.showsUnless_rowText (not_mem_decimal t.column) (not_mem_name t.kind)
      (dyes_shown (h t ht))
      (cellWidth_le_shownWidth true (List.mem_cons_of_mem _ (List.mem_map_of_mem ht)))

theorem uncoloured_table (color : Bool) (tokens : List Token) : (table color tokens).uncoloured =
    Table.drawRule Table.topRule (tableWidths tokens (shownWidth color tokens)) ++ '\n' ::
      (Table.body (tableWidths tokens (shownWidth color tokens)) tableHeader
        (tokens.map (tableRow color))).uncoloured :=
  Table.uncoloured_draw _ _ (columnWidths_table color tokens)

theorem shownWidth_eq_of_uncoloured {tokens : List Token}
    (h : (table true tokens).uncoloured = table false tokens) :
    shownWidth true tokens = shownWidth false tokens := by
  rw [uncoloured_table, table_eq] at h
  have hrules := congrArg (List.takeWhile (· ≠ '\n')) h
  rw [Table.takeWhile_topRule, Table.takeWhile_topRule] at hrules
  have hlength := congrArg List.length hrules
  unfold tableWidths at hlength
  rw [Table.length_drawRule_three, Table.length_drawRule_three] at hlength
  omega

/-- Without its codes the table in colour is the one without colour if no token is painted, and
only then. -/
theorem uncoloured_table_iff {tokens : List Token} (h : ∀ t ∈ tokens, '\x1b' ∉ t.text) :
    (table true tokens).uncoloured = table false tokens ↔
      ∀ t ∈ tokens, t.kind ∈ [.openGroup, .closeGroup, .comparator] := by
  by_cases hwidth : shownWidth true tokens = shownWidth false tokens
  · have hbody := (showsUnless_body h).uncoloured_eq_iff
    rw [uncoloured_table, table_eq, ← hwidth, List.append_right_inj, List.cons_inj_right, hbody]
    simp only [not_exists, not_and, not_not]
  · refine iff_of_false (hwidth ∘ shownWidth_eq_of_uncoloured) fun hplain => hwidth ?_
    have hshown : tokens.map (shown true) = tokens.map (shown false) := by
      refine List.map_congr_left fun t ht => ?_
      rcases t.shown_cases with ⟨-, heq⟩ | ⟨hkind, -⟩
      · exact heq
      · exact absurd (hplain t ht) hkind
    rw [shownWidth, hshown, shownWidth]

theorem uncoloured_table_parentheses :
    (table true [⟨.openGroup, ['('], 0⟩, ⟨.closeGroup, [')'], 1⟩]).uncoloured =
        table false [⟨.openGroup, ['('], 0⟩, ⟨.closeGroup, [')'], 1⟩] ∧
      (table true [⟨.openGroup, ['('], 0⟩, ⟨.negator, "NOT".toList, 1⟩]).uncoloured ≠
        table false [⟨.openGroup, ['('], 0⟩, ⟨.negator, "NOT".toList, 1⟩] :=
  ⟨(uncoloured_table_iff (by decide)).2 (by decide),
    mt (uncoloured_table_iff (by decide)).1 (by decide)⟩

/-- The codes around a single letter make its column six cells wider. -/
theorem uncoloured_table_letter :
    (table true [⟨.text, ['a'], 0⟩]).uncoloured ≠ table false [⟨.text, ['a'], 0⟩] := by
  decide +kernel

end Token

end FieldQuery
