import FieldQuery.Report
import FieldQuery.Proofs.QueryError.Wording
import FieldQuery.Proofs.Text.Lines
import Mathlib.Data.List.Basic
set_option autoImplicit false

/-! What the report of an error paints. The report is cut into lines again, and a line that ends
with a caret counts as the line of the caret, whoever wrote it. So the label and the caret are
painted alone only if no line of the query ends that way. -/

namespace FieldQuery

theorem Text.lines_message {message : Text} (h : message.OneLine) (shown : Text) :
    (message ++ '\n' :: shown).lines = message :: shown.lines := by
  have hnewline : '\n' ∉ message := fun hm => (h _ hm).1 rfl
  have hreturn : '\r' ∉ message := fun hm => (h _ hm).2 rfl
  rw [lines_append_newline, lines, pieces_newline_of_not_mem hnewline, List.map_singleton,
    dropLineEnding_newline_of_not_mem hreturn, List.singleton_append]

namespace QueryError

theorem endsWithCaret_eq (line : Text) : endsWithCaret line =
    decide ((line.reverse.dropWhile Unicode.isWhitespace).head? = some '^') := by
  rw [endsWithCaret, Text.trimEnd, Text.trimStart, List.getLast?_reverse]

theorem endsWithCaret_leading {c : Char} (h : Unicode.isWhitespace c) (line : Text) :
    endsWithCaret (c :: line) = endsWithCaret line := by
  rw [endsWithCaret_eq, endsWithCaret_eq, List.reverse_cons, List.dropWhile_append]
  split
  · next hempty =>
    rw [List.isEmpty_iff.1 hempty, List.dropWhile_cons_of_pos h]
    rfl
  · next hne =>
    cases hd : line.reverse.dropWhile Unicode.isWhitespace with
    | nil => exact absurd (List.isEmpty_iff.2 hd) hne
    | cons d rest => rfl

theorem endsWithCaret_trailing {c : Char} (h : Unicode.isWhitespace c) (line : Text) :
    endsWithCaret (line ++ [c]) = endsWithCaret line := by
  rw [endsWithCaret_eq, endsWithCaret_eq, List.reverse_append, List.reverse_singleton,
    List.singleton_append, List.dropWhile_cons_of_pos h]

theorem endsWithCaret_dropLineEnding (piece : Text) :
    endsWithCaret (Text.dropLineEnding piece) = endsWithCaret piece := by
  rw [Text.dropLineEnding]
  split
  · next rest h =>
    rw [List.reverse_eq_cons_iff.1 h, List.reverse_cons, endsWithCaret_trailing (by decide),
      endsWithCaret_trailing (by decide)]
  · next rest _ h =>
    rw [List.reverse_eq_cons_iff.1 h, endsWithCaret_trailing (by decide)]
  · rfl

/-- No line of the text ends with a caret, blanks behind it apart. -/
def NoCaretEnds (text : Text) : Prop := ∀ line ∈ text.lines, endsWithCaret line = false

instance (text : Text) : Decidable (NoCaretEnds text) :=
  List.decidableBAll (fun line => endsWithCaret line = false) text.lines

theorem noCaretEnds_iff {text : Text} :
    NoCaretEnds text ↔ ∀ piece ∈ text.pieces, endsWithCaret piece = false := by
  simp only [NoCaretEnds, Text.lines, List.forall_mem_map, endsWithCaret_dropLineEnding]

theorem noCaretEnds_cons {c : Char} (h : Unicode.isWhitespace c) (text : Text) :
    NoCaretEnds (c :: text) ↔ NoCaretEnds text := by
  have hblank : endsWithCaret [c] = false := endsWithCaret_leading h []
  rw [noCaretEnds_iff, noCaretEnds_iff, Text.pieces]
  split
  · rw [List.forall_mem_cons, and_iff_right hblank]
  · cases Text.pieces text with
    | nil => simp [hblank]
    | cons piece rest =>
      rw [List.forall_mem_cons, List.forall_mem_cons, endsWithCaret_leading h]

theorem noCaretEnds_newline (text : Text) : NoCaretEnds (text ++ ['\n']) ↔ NoCaretEnds text := by
  rw [noCaretEnds_iff, noCaretEnds_iff]
  rcases Text.pieces_newline text with h | ⟨init, last, h, hn⟩
  · rw [h, List.forall_mem_append, List.forall_mem_singleton, and_iff_left (by decide)]
  · rw [h, hn, List.forall_mem_append, List.forall_mem_append, List.forall_mem_singleton,
      List.forall_mem_singleton, endsWithCaret_trailing (by decide)]

def queryLines (e : QueryError) (query : Text) : List Text :=
  Text.lines (' ' :: ' ' :: query ++ if e.column.isSome then ['\n'] else [])

def caretLines (e : QueryError) : List Text :=
  e.column.toList.map fun column => List.replicate (2 + column) ' ' ++ ['^']

/-- The report of an error, with `paint` for the lines of the query. -/
def reportWith (paint : Text → Text) (query : Text) (e : QueryError) : Text :=
  painted true .error "error:".toList ++ [' '] ++ e.display
    ++ ((e.queryLines query).flatMap fun line => '\n' :: paint line)
    ++ e.caretLines.flatMap fun line => '\n' :: painted true .error line

/-- What a report relies on: the error is about the query that is shown, and has one line to say. -/
structure Fits (query : Text) (e : QueryError) : Prop where
  source_eq : e.source query = query
  column_le : ∀ column, e.column = some column → column ≤ query.length
  one_line : e.display.OneLine

variable {query : Text} {e : QueryError}

theorem Fits.of_refused (h : RefusedWith query e) : e.Fits query where
  source_eq := by
    cases e with
    | recognition text offset => exact (h.pointsAt rfl).1.source_eq
    | semantic fault column => rfl
  column_le := fun _ hc => Nat.le_of_lt (h.pointsAt hc).2
  one_line := h.oneLine_display

theorem Fits.of_tokenize (h : tokenize query = .error e) : e.Fits query := by
  obtain ⟨offset, rfl, -, hlt⟩ := exists_ending_of_stop (tokenize_eq_error_iff.1 h)
  refine ⟨rfl, fun column hc => ?_, oneLine_display_recognition query offset⟩
  obtain rfl := Option.some.inj hc
  exact Nat.le_of_lt hlt

theorem queryLines_forall_iff (query : Text) (e : QueryError) :
    (∀ line ∈ e.queryLines query, endsWithCaret line = false) ↔ NoCaretEnds query := by
  have hmargin (text : Text) : NoCaretEnds (' ' :: ' ' :: text) ↔ NoCaretEnds text := by
    rw [noCaretEnds_cons (by decide), noCaretEnds_cons (by decide)]
  rw [queryLines, ← NoCaretEnds, List.cons_append, List.cons_append, hmargin]
  split
  · exact noCaretEnds_newline query
  · rw [List.append_nil]

theorem caretLines_forall (e : QueryError) : ∀ line ∈ e.caretLines, endsWithCaret line := by
  intro line h
  obtain ⟨column, -, rfl⟩ := List.mem_map.1 h
  rw [endsWithCaret_eq, List.reverse_append]
  rfl

theorem Fits.lines_withContext (h : e.Fits query) :
    (e.withContext query).lines = e.display :: (e.queryLines query ++ e.caretLines) := by
  cases hc : e.column with
  | none =>
    have hcontext : e.withContext query = e.display ++ '\n' :: ' ' :: ' ' :: query := by
      simp [withContext, hc, h.source_eq]
    rw [hcontext, Text.lines_message h.one_line, queryLines, caretLines, hc]
    simp
  | some column =>
    have hcontext : e.withContext query = e.display ++ '\n' ::
        ((' ' :: ' ' :: query) ++ '\n' :: (List.replicate (2 + column) ' ' ++ ['^'])) := by
      rw [withContext_eq h.source_eq hc (h.column_le column hc)]
      simp
    have hcaret : Text.lines (List.replicate (2 + column) ' ' ++ ['^']) =
        [List.replicate (2 + column) ' ' ++ ['^']] := Text.lines_of_not_mem (by simp) (by simp)
    rw [hcontext, Text.lines_message h.one_line, Text.lines_append_newline, hcaret, queryLines,
      caretLines, hc]
    rfl

theorem Fits.report_eq (h : e.Fits query) :
    e.report true query = e.reportWith (reportLine true) query := by
  have hcaret : (e.caretLines.flatMap fun line => '\n' :: reportLine true line) =
      e.caretLines.flatMap fun line => '\n' :: painted true .error line :=
    List.flatMap_congr fun line hm => by rw [reportLine, if_pos (caretLines_forall e line hm)]
  simp only [report, h.lines_withContext, List.flatMap_append, hcaret, reportWith,
    List.append_assoc]

theorem length_le_reportLine (line : Text) : line.length ≤ (reportLine true line).length := by
  rw [reportLine]
  split
  · rw [painted, if_pos rfl, List.length_append, List.length_append]
    omega
  · exact Nat.le_refl _

theorem reportLine_eq_self_iff {line : Text} :
    reportLine true line = line ↔ endsWithCaret line = false := by
  rw [reportLine]
  split
  · next hcaret =>
    have hne : painted true .error line ≠ line := by
      intro heq
      have hlength := congrArg List.length heq
      simp [painted, Style.codes, sgr] at hlength
      omega
    simp [hne, hcaret]
  · next hcaret => simp [hcaret]

theorem length_flatMap_le_reportLine (lines : List Text) :
    (lines.flatMap ('\n' :: ·)).length ≤
      (lines.flatMap fun line => '\n' :: reportLine true line).length := by
  induction lines with
  | nil => exact Nat.le_refl 0
  | cons line lines ih =>
    have hline := length_le_reportLine line
    simp only [List.flatMap_cons, List.length_append, List.length_cons]
    omega

/-- Paint makes lines longer, so painted lines are the lines as they were only if none is. -/
theorem flatMap_reportLine_iff (lines : List Text) :
    (lines.flatMap fun line => '\n' :: reportLine true line) = lines.flatMap ('\n' :: ·) ↔
      ∀ line ∈ lines, endsWithCaret line = false := by
  induction lines with
  | nil => simp
  | cons line lines ih =>
    rw [List.flatMap_cons, List.flatMap_cons, List.forall_mem_cons, ← ih, ← reportLine_eq_self_iff]
    constructor
    · intro heq
      have hline := length_le_reportLine line
      have hlines := length_flatMap_le_reportLine lines
      have hlength := congrArg List.length heq
      simp only [List.length_append, List.length_cons] at hlength
      obtain ⟨hfirst, hrest⟩ := List.append_inj heq (by simp only [List.length_cons]; omega)
      exact ⟨(List.cons.inj hfirst).2, hrest⟩
    · rintro ⟨hfirst, hrest⟩
      rw [hfirst, hrest]

end QueryError

/-- The label and the caret are painted whatever the query is, and the message is not. The query is
left as it is if none of its lines ends with a caret and blanks, and only then. -/
theorem report_paints_caret_alone_iff {query : Text} {e : QueryError}
    (h : parse query = .error e ∨ tokenize query = .error e) :
    e.report true query = e.reportWith (QueryError.reportLine true) query ∧
      (e.report true query = e.reportWith id query ↔ QueryError.NoCaretEnds query) := by
  have hfits : e.Fits query := h.elim (fun h => .of_refused (.inl h)) .of_tokenize
  refine ⟨hfits.report_eq, ?_⟩
  rw [hfits.report_eq, QueryError.reportWith, QueryError.reportWith, List.append_left_inj,
    List.append_right_inj]
  exact (QueryError.flatMap_reportLine_iff _).trans (QueryError.queryLines_forall_iff query e)

theorem report_paints_caret_alone_iff_quoted_carets :
    (tokenize "a:\"^^\n\" $".toList = .error (.recognition "a:\"^^\n\" $".toList 8) ∧
      (QueryError.recognition "a:\"^^\n\" $".toList 8).report true "a:\"^^\n\" $".toList ≠
        (QueryError.recognition "a:\"^^\n\" $".toList 8).reportWith id "a:\"^^\n\" $".toList) ∧
    parse "(a:\"^\"".toList = .error (.semantic .unclosed none) ∧
      (QueryError.semantic .unclosed none).report true "(a:\"^\"".toList =
        (QueryError.semantic .unclosed none).reportWith id "(a:\"^\"".toList := by
  have hquoted : tokenize "a:\"^^\n\" $".toList =
      .error (.recognition "a:\"^^\n\" $".toList 8) := by rfl
  have hopen : parse "(a:\"^\"".toList = .error (.semantic .unclosed none) := by rfl
  exact ⟨⟨hquoted, mt (report_paints_caret_alone_iff (.inr hquoted)).2.1 (by decide)⟩,
    hopen, (report_paints_caret_alone_iff (.inl hopen)).2.2 (by decide)⟩

/-- A query that ends with a caret, which starts no token. Its only line is painted as well. -/
theorem report_paints_query_line :
    parse "a:b ^".toList = .error (.recognition "a:b ^".toList 4) ∧
      (QueryError.recognition "a:b ^".toList 4).report true "a:b ^".toList =
        painted true .error "error:".toList ++ " Unrecognized character at column [4]\n".toList ++
          painted true .error "  a:b ^".toList ++ ['\n'] ++
          painted true .error "      ^".toList ∧
      (QueryError.recognition "a:b ^".toList 4).report true "a:b ^".toList ≠
        (QueryError.recognition "a:b ^".toList 4).reportWith id "a:b ^".toList :=
  ⟨by rfl, by decide, by decide⟩

end FieldQuery
