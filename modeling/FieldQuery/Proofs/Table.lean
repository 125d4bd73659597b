import FieldQuery.Table
import FieldQuery.Proofs.Text.Parts
import FieldQuery.Proofs.Unicode.TextWidth
set_option autoImplicit false

/-! A table drawn at given widths, line by line. Two tables whose cells are as high and show the
same lines differ in what they pad: a line that measures more than it shows is padded less. -/

namespace FieldQuery.Table

theorem le_foldl_max {α : Type} (f : α → Nat) (xs : List α) (start : Nat) :
    start ≤ xs.foldl (fun w x => max w (f x)) start ∧
      ∀ x ∈ xs, f x ≤ xs.foldl (fun w x => max w (f x)) start := by
  induction xs generalizing start with
  | nil => exact ⟨Nat.le_refl _, nofun⟩
  | cons x xs ih =>
    obtain ⟨hstart, hmem⟩ := ih (max start (f x))
    rw [List.foldl_cons]
    exact ⟨by omega, List.forall_mem_cons.2 ⟨by omega, hmem⟩⟩

theorem cellLines_ne_nil (cell : Text) : cellLines cell ≠ [] := Text.splitOn_ne_nil '\n' cell

theorem textWidth_le_cellWidth {cell line : Text} (h : line ∈ cellLines cell) :
    Unicode.textWidth line ≤ cellWidth cell :=
  (le_foldl_max Unicode.textWidth (cellLines cell) 0).2 line h

def widest (cells : List Text) : Nat :=
  cells.foldl (fun w cell => max w (cellWidth cell)) 0

theorem cellWidth_le_widest {cells : List Text} {cell : Text} (h : cell ∈ cells) :
    cellWidth cell ≤ widest cells :=
  (le_foldl_max cellWidth cells 0).2 cell h

theorem columnWidths_three {α : Type} (a b c : Text) (f g h : α → Text) (xs : List α) :
    columnWidths 3 ([a, b, c] :: xs.map fun x => [f x, g x, h x]) =
      [widest (a :: xs.map f), widest (b :: xs.map g), widest (c :: xs.map h)] := by
  have hrun (i j k : Nat) : (xs.map fun x => [f x, g x, h x]).foldl (fun widths row =>
        List.zipWith (fun w cell => max w (cellWidth cell)) widths row) [i, j, k] =
      [(xs.map f).foldl (fun w cell => max w (cellWidth cell)) i,
        (xs.map g).foldl (fun w cell => max w (cellWidth cell)) j,
        (xs.map h).foldl (fun w cell => max w (cellWidth cell)) k] := by
    induction xs generalizing i j k with
    | nil => rfl
    | cons x xs ih => exact ih _ _ _
  exact hrun _ _ _

def rowText (widths : List Nat) (row : Row) : Text :=
  (List.range (rowHeight row)).flatMap fun i => drawRowLine widths row i ++ ['\n']

/-- The table below its first line, where the columns are as wide as given. -/
def body (widths : List Nat) (header : Row) (rows : List Row) : Text :=
  rowText widths header ++ drawRule headerRule widths ++ ['\n'] ++ rows.flatMap (rowText widths)
    ++ drawRule bottomRule widths

theorem draw_eq (header : Row) (rows : List Row) {widths : List Nat}
    (h : columnWidths header.length (header :: rows) = widths) :
    draw header rows = drawRule topRule widths ++ '\n' :: body widths header rows := by
  unfold draw body rowText drawRow
  rw [h, Text.intercalate_append_singleton]
  simp only [List.flatMap_append, List.flatMap_map, List.flatMap_assoc, List.flatMap_cons,
    List.append_assoc, List.cons_append, List.nil_append]

theorem not_mem_drawRule {c : Char} {rule : Rule}
    (h : c ∉ [rule.left, rule.fill, rule.cross, rule.right]) (widths : List Nat) :
    c ∉ drawRule rule widths := by
  simp only [List.mem_cons, List.not_mem_nil, or_false, not_or] at h
  obtain ⟨hleft, hfill, hcross, hright⟩ := h
  have hparts : ∀ part ∈ widths.map fun w => List.replicate (w + 2) rule.fill, c ∉ part := by
    intro part hpart hc
    obtain ⟨w, -, rfl⟩ := List.mem_map.1 hpart
    exact hfill (List.eq_of_mem_replicate hc)
  have hinner := Text.not_mem_intercalate (mt List.mem_singleton.1 hcross) hparts
  unfold drawRule
  simp only [List.mem_append, List.mem_singleton, not_or]
  exact ⟨⟨hleft, hinner⟩, hright⟩

theorem uncoloured_draw (header : Row) (rows : List Row) {widths : List Nat}
    (h : columnWidths header.length (header :: rows) = widths) :
    (draw header rows).uncoloured =
      drawRule topRule widths ++ '\n' :: (body widths header rows).uncoloured := by
  have hrule : Text.Shows (drawRule topRule widths) (drawRule topRule widths) :=
    .self (not_mem_drawRule (by decide) widths)
  rw [draw_eq header rows h, hrule, Text.uncoloured_cons_of_ne (by decide)]

theorem takeWhile_topRule (widths : List Nat) (below : Text) :
    (drawRule topRule widths ++ '\n' :: below).takeWhile (· ≠ '\n') = drawRule topRule widths := by
  have hrule : ∀ c ∈ drawRule topRule widths, decide (c ≠ '\n') = true := by
    intro c hc
    refine decide_eq_true fun heq => ?_
    exact not_mem_drawRule (by decide : '\n' ∉ ['┌', '─', '┬', '┐']) widths (heq ▸ hc)
  rw [List.takeWhile_append_of_pos hrule, List.takeWhile_cons_of_neg (by decide), List.append_nil]

theorem length_drawRule_three (rule : Rule) (i j k : Nat) :
    (drawRule rule [i, j, k]).length = i + j + k + 10 := by
  simp only [drawRule, List.map_cons, List.map_nil, List.intercalate_cons_cons,
    List.intercalate_singleton, List.length_append, List.length_cons, List.length_nil,
    List.length_replicate]
  omega

/-- A line shows another one and takes no fewer cells. -/
structure Dyed (line plain : Text) : Prop where
  shows : line.Shows plain
  textWidth_le : Unicode.textWidth plain ≤ Unicode.textWidth line

theorem Dyed.self {line : Text} (h : '\x1b' ∉ line) : Dyed line line :=
  ⟨.self h, Nat.le_refl _⟩

def lineAt (cell : Text) (n : Nat) : Text := (cellLines cell)[n]?.getD []

theorem not_mem_of_mem_cellLines {c : Char} {cell line : Text} (h : c ∉ cell)
    (hline : line ∈ cellLines cell) : c ∉ line :=
  mt (Text.mem_of_mem_splitOn hline) h

theorem not_mem_lineAt {c : Char} {cell : Text} (h : c ∉ cell) (n : Nat) : c ∉ lineAt cell n := by
  unfold lineAt
  cases hline : (cellLines cell)[n]? with
  | none => exact List.not_mem_nil
  | some line => exact not_mem_of_mem_cellLines h (List.mem_of_getElem? hline)

theorem textWidth_lineAt_le (cell : Text) (n : Nat) :
    Unicode.textWidth (lineAt cell n) ≤ cellWidth cell := by
  unfold lineAt
  cases hline : (cellLines cell)[n]? with
  | none => exact Nat.zero_le _
  | some line => exact textWidth_le_cellWidth (List.mem_of_getElem? hline)

/-- A cell shows another one line by line. It is that one, or its first line takes more cells. -/
structure Dyes (widened : Prop) (cell plain : Text) : Prop where
  lines : List.Forall₂ Dyed (cellLines cell) (cellLines plain)
  lt_of_widened : widened →
    Unicode.textWidth (lineAt plain 0) < Unicode.textWidth (lineAt cell 0)
  eq_of_not : ¬ widened → cell = plain

namespace Dyes

variable {widened : Prop} {cell plain : Text}

theorem self {cell : Text} (h : '\x1b' ∉ cell) : Dyes False cell cell where
  lines := List.forall₂_same.2 fun _ hline => .self (not_mem_of_mem_cellLines h hline)
  lt_of_widened := False.elim
  eq_of_not := fun _ => rfl

theorem of_iff {wider : Prop} (h : Dyes widened cell plain) (hi : wider ↔ widened) :
    Dyes wider cell plain := by
  rwa [propext hi]

theorem dyed_lineAt (h : Dyes widened cell plain) (n : Nat) :
    Dyed (lineAt cell n) (lineAt plain n) := by
  have hlines := h.lines
  unfold lineAt
  generalize cellLines cell = lines, cellLines plain = plains at hlines ⊢
  induction hlines generalizing n with
  | nil => exact .self List.not_mem_nil
  | cons hline _ ih =>
    cases n with
    | zero => exact hline
    | succ n => exact ih n

end Dyes

theorem not_mem_drawCellLine {c : Char} (hc : c ≠ ' ') {line : Text} (h : c ∉ line) (w : Nat) :
    c ∉ drawCellLine w line := by
  simp [drawCellLine, hc, h, List.mem_replicate]

theorem Dyed.showsUnless_drawCellLine {line plain : Text} (h : Dyed line plain) {w : Nat}
    (hw : Unicode.textWidth line ≤ w) :
    Text.ShowsUnless (Unicode.textWidth plain < Unicode.textWidth line) (drawCellLine w line)
      (drawCellLine w plain) := by
  have hblank : Text.Shows [' '] [' '] := .self (by decide)
  have hpadding : Text.Shows (List.replicate (w - Unicode.textWidth line) ' ')
      (List.replicate (w - Unicode.textWidth line) ' ') := .self (by simp)
  refine ⟨_, ((hblank.append h.shows).append hpadding).append hblank, fun hlt => ?_, fun hnot => ?_⟩
  · simp only [drawCellLine, List.length_append, List.length_replicate]
    omega
  · rw [drawCellLine, Nat.le_antisymm h.textWidth_le (Nat.le_of_not_lt hnot)]

def rowFront (i j : Nat) (first second : Text) (n : Nat) : Text :=
  [side] ++ drawCellLine i (lineAt first n) ++ [divider] ++ drawCellLine j (lineAt second n)
    ++ [divider]

theorem drawRowLine_three (i j k : Nat) (first second third : Text) (n : Nat) :
    drawRowLine [i, j, k] [first, second, third] n =
      rowFront i j first second n ++ drawCellLine k (lineAt third n) ++ [side] := by
  simp only [drawRowLine, rowFront, lineAt, List.zipWith_cons_cons, List.zipWith_nil_left,
    List.intercalate_cons_cons, List.intercalate_singleton, List.append_assoc]

section

variable {widened : Prop} {first second cell plain : Text} {i j k : Nat}

theorem showsUnless_drawRowLine (hf : '\x1b' ∉ first) (hs : '\x1b' ∉ second)
    (h : Dyes widened cell plain) (hw : cellWidth cell ≤ k) (n : Nat) :
    Text.ShowsUnless (Unicode.textWidth (lineAt plain n) < Unicode.textWidth (lineAt cell n))
      (drawRowLine [i, j, k] [first, second, cell] n)
      (drawRowLine [i, j, k] [first, second, plain] n) := by
  have hfront : '\x1b' ∉ rowFront i j first second n := by
    have hfirst := not_mem_drawCellLine (by decide) (not_mem_lineAt hf n) i
    have hsecond := not_mem_drawCellLine (by decide) (not_mem_lineAt hs n) j
    simp [rowFront, hfirst, hsecond, side, divider]
  have hline := (h.dyed_lineAt n).showsUnless_drawCellLine
    (Nat.le_trans (textWidth_lineAt_le cell n) hw)
  have hside : Text.ShowsUnless False [side] [side] := .self (by decide)
  rw [drawRowLine_three, drawRowLine_three]
  exact (((Text.ShowsUnless.self hfront).append hline).append hside).of_iff (by simp)

theorem showsUnless_rowText (hf : '\x1b' ∉ first) (hs : '\x1b' ∉ second)
    (h : Dyes widened cell plain) (hw : cellWidth cell ≤ k) :
    Text.ShowsUnless widened (rowText [i, j, k] [first, second, cell])
      (rowText [i, j, k] [first, second, plain]) := by
  have hheight : rowHeight [first, second, cell] = rowHeight [first, second, plain] := by
    simp only [rowHeight, List.foldl_cons, List.foldl_nil, h.lines.length_eq]
  have hpos : 0 < rowHeight [first, second, plain] := by
    have hlines := List.length_pos_iff.2 (cellLines_ne_nil plain)
    exact Nat.lt_of_lt_of_le hlines (Nat.le_max_right _ _)
  have hnewline : Text.ShowsUnless False ['\n'] ['\n'] := .self (by decide)
  unfold rowText
  rw [hheight]
  refine (Text.ShowsUnless.flatMap fun n _ =>
    (showsUnless_drawRowLine hf hs h hw n).append hnewline).of_iff ⟨fun hwide => ?_, ?_⟩
  · exact ⟨0, List.mem_range.2 hpos, .inl (h.lt_of_widened hwide)⟩
  · rintro ⟨n, -, hlt | hfalse⟩
    · by_contra hnot
      rw [h.eq_of_not hnot] at hlt
      exact Nat.lt_irrefl _ hlt
    · exact hfalse.elim

end

theorem showsUnless_body {α : Type} {P : α → Prop} {widths : List Nat} {header : Row}
    {row plainRow : α → Row} {xs : List α}
    (hheader : Text.ShowsUnless False (rowText widths header) (rowText widths header))
    (h : ∀ x ∈ xs, Text.ShowsUnless (P x) (rowText widths (row x)) (rowText widths (plainRow x))) :
    Text.ShowsUnless (∃ x ∈ xs, P x) (body widths header (xs.map row))
      (body widths header (xs.map plainRow)) := by
  have hrule (rule : Rule) (hr : '\x1b' ∉ [rule.left, rule.fill, rule.cross, rule.right]) :
      Text.ShowsUnless False (drawRule rule widths) (drawRule rule widths) :=
    .self (not_mem_drawRule hr widths)
  have hnewline : Text.ShowsUnless False ['\n'] ['\n'] := .self (by decide)
  unfold body
  rw [List.flatMap_map, List.flatMap_map]
  have habove := (hheader.append (hrule headerRule (by decide))).append hnewline
  have hrows := habove.append (Text.ShowsUnless.flatMap h)
  exact (hrows.append (hrule bottomRule (by decide))).of_iff (by simp)

end FieldQuery.Table
