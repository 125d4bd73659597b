import FieldQuery.Proofs.QueryError.Column
import FieldQuery.Proofs.Text.Lines
set_option autoImplicit false

/-! Whether the caret stands under the character that an error points to. The caret is set by the
column, and a column counts from the start of the query. So it does under a query of one line, and
under no other. -/

namespace FieldQuery

namespace Text

/-- The last line is blanks and a caret, and the character at the position stands right over it. -/
structure CaretUnder (report : Text) (position : Nat) : Prop where
  caret_line : ∃ front blanks, report = front ++ '\n' :: (List.replicate blanks ' ' ++ ['^'])
  line_above : report.lineAt position + 1 = report.lineAt (report.length - 1)
  offset_eq : report.offsetAt position = report.offsetAt (report.length - 1)

def marked (message shown : Text) (blanks : Nat) : Text :=
  message ++ '\n' :: (shown ++ '\n' :: (List.replicate blanks ' ' ++ ['^']))

section Marked

variable {shown : Text} {blanks : Nat}

theorem marked_eq (message shown : Text) (blanks : Nat) : marked message shown blanks =
    (message ++ '\n' :: shown) ++ '\n' :: (List.replicate blanks ' ' ++ ['^']) := by
  simp [marked]

theorem length_marked (message shown : Text) (blanks : Nat) :
    (marked message shown blanks).length - 1 = (message ++ '\n' :: shown).length + 1 + blanks := by
  rw [marked_eq]
  simp only [List.length_append, List.length_cons, List.length_replicate, List.length_nil]
  omega

theorem place_behind_newline (front back : Text) (i : Nat) :
    lineAt (front ++ '\n' :: back) (front.length + 1 + i) = front.count '\n' + 1 + lineAt back i ∧
      offsetAt (front ++ '\n' :: back) (front.length + 1 + i) = offsetAt back i := by
  refine ⟨?_, offsetAt_append_newline front back i⟩
  have hsplit : front ++ '\n' :: back = (front ++ ['\n']) ++ back := by simp
  have hlength : front.length + 1 = (front ++ ['\n']).length := by simp
  rw [hsplit, hlength, lineAt_append, List.count_append]
  rfl

theorem place_of_shown (message : Text) (h : blanks ≤ shown.length) :
    lineAt (marked message shown blanks) (message.length + 1 + blanks) =
        message.count '\n' + 1 + lineAt shown blanks ∧
      offsetAt (marked message shown blanks) (message.length + 1 + blanks) =
        offsetAt shown blanks := by
  obtain ⟨hline, hoffset⟩ := place_behind_newline message
    (shown ++ '\n' :: (List.replicate blanks ' ' ++ ['^'])) blanks
  rw [lineAt_append_left h] at hline
  rw [offsetAt_append_left h] at hoffset
  exact ⟨hline, hoffset⟩

theorem place_of_caret (message shown : Text) (blanks : Nat) :
    lineAt (marked message shown blanks) ((marked message shown blanks).length - 1) =
        message.count '\n' + 1 + shown.count '\n' + 1 ∧
      offsetAt (marked message shown blanks) ((marked message shown blanks).length - 1) =
        blanks := by
  have htake : (List.replicate blanks ' ' ++ ['^']).take blanks = List.replicate blanks ' ' :=
    List.take_left' List.length_replicate
  have hblank : '\n' ∉ List.replicate blanks ' ' := by simp
  obtain ⟨hline, hoffset⟩ := place_behind_newline (message ++ '\n' :: shown)
    (List.replicate blanks ' ' ++ ['^']) blanks
  rw [length_marked, marked_eq, hline, hoffset]
  constructor
  · rw [lineAt, htake, List.count_eq_zero.2 hblank, List.count_append, List.count_cons_self]
    omega
  · rw [offsetAt_eq_self_iff (by simp), htake]
    exact hblank

/-- A caret so many blanks into the line stands under the character so far into the text above only
if that is a single line. -/
theorem caretUnder_marked_iff (message : Text) (h : blanks ≤ shown.length) :
    (marked message shown blanks).CaretUnder (message.length + 1 + blanks) ↔ '\n' ∉ shown := by
  obtain ⟨hline, hoffset⟩ := place_of_shown message h
  obtain ⟨hcaretLine, hcaretOffset⟩ := place_of_caret message shown blanks
  have hcount : shown.count '\n' = lineAt shown blanks + (shown.drop blanks).count '\n' := by
    rw [lineAt, ← List.count_append, List.take_append_drop]
  have hmem : '\n' ∉ shown ↔ shown.count '\n' = 0 := List.count_eq_zero.symm
  constructor
  · intro hcaret
    have habove := hcaret.line_above
    have haligned := hcaret.offset_eq
    rw [hoffset, hcaretOffset, offsetAt_eq_self_iff h, ← List.count_eq_zero, ← lineAt] at haligned
    rw [hline, hcaretLine] at habove
    rw [hmem]
    omega
  · intro hn
    have hzero := hmem.1 hn
    refine ⟨⟨message ++ '\n' :: shown, blanks, marked_eq message shown blanks⟩, ?_, ?_⟩
    · rw [hline, hcaretLine]
      omega
    · rw [hoffset, hcaretOffset, offsetAt_eq_self_iff h]
      exact fun hm => hn (List.mem_of_mem_take hm)

end Marked

end Text

def QueryError.shownAt (e : QueryError) (column : Nat) : Nat := e.display.length + 3 + column

/-- The report shows the character of the query that the error points to, and has the caret under it
if the query is a single line and only then. -/
theorem caretUnder_iff {query : Text} {e : QueryError} {column : Nat}
    (h : parse query = .error e) (hc : e.column = some column) :
    (∃ c, query[column]? = some c ∧ (e.withContext query)[e.shownAt column]? = some c) ∧
      ((e.withContext query).CaretUnder (e.shownAt column) ↔ '\n' ∉ query) := by
  obtain ⟨hp, hlt⟩ := RefusedWith.pointsAt (.inl h) hc
  have hmarked : e.withContext query = Text.marked e.display (' ' :: ' ' :: query) (2 + column) := by
    rw [QueryError.withContext_eq hp.source_eq hc (Nat.le_of_lt hlt), Text.marked]
    simp
  have hposition : e.shownAt column = e.display.length + 1 + (2 + column) := by
    rw [QueryError.shownAt]
    omega
  rw [hmarked, hposition]
  constructor
  · refine ⟨query[column], List.getElem?_eq_getElem hlt, ?_⟩
    rw [Text.marked, Nat.add_assoc, List.getElem?_append_right (Nat.le_add_right _ _),
      Nat.add_sub_cancel_left, Nat.add_comm 1, List.getElem?_cons_succ, Nat.add_comm 2]
    rw [List.cons_append, List.cons_append, List.getElem?_cons_succ, List.getElem?_cons_succ,
      List.getElem?_append_left hlt, List.getElem?_eq_getElem hlt]
  · rw [Text.caretUnder_marked_iff _ (by simp only [List.length_cons]; omega)]
    simp

theorem caretUnder_iff_behind_quotes :
    parse "é:\"ü\" x".toList = .error (.semantic (.unexpected .text) (some 6)) ∧
      ((QueryError.semantic (.unexpected .text) (some 6)).withContext "é:\"ü\" x".toList).CaretUnder
        ((QueryError.semantic (.unexpected .text) (some 6)).shownAt 6) := by
  have h : parse "é:\"ü\" x".toList = .error (.semantic (.unexpected .text) (some 6)) := by rfl
  exact ⟨h, (caretUnder_iff h rfl).2.2 (by decide)⟩

/-- A query of two lines, where the character behind the newline starts no token. It stands first on
its line, and the caret is put as far into the line as the whole of the first line is long. -/
theorem not_caretUnder_second_line :
    parse "a:b\n$".toList = .error (.recognition "a:b\n$".toList 4) ∧
      "a:b\n$".toList[4]? = some '$' ∧
      (QueryError.recognition "a:b\n$".toList 4).withContext "a:b\n$".toList =
        "Unrecognized character at column [4]\n  a:b\n$\n      ^".toList ∧
      ¬ ((QueryError.recognition "a:b\n$".toList 4).withContext "a:b\n$".toList).CaretUnder
        ((QueryError.recognition "a:b\n$".toList 4).shownAt 4) :=
  ⟨by rfl, rfl, by decide, fun h => absurd h.offset_eq (by decide)⟩

end FieldQuery
