import FieldQuery.Text
import Mathlib.Data.List.TakeWhile
set_option autoImplicit false

namespace FieldQuery.Text

theorem flatten_pieces (text : Text) : text.pieces.flatten = text := by
  induction text with
  | nil => rfl
  | cons c text ih =>
    rw [pieces]
    split
    · rw [List.flatten_cons, ih]
      rfl
    · split
      · next hp =>
        rw [← ih, hp]
        rfl
      · next hp =>
        rw [hp] at ih
        rw [List.flatten_cons, List.cons_append, ← List.flatten_cons, ih]

theorem exists_body_of_mem_pieces {text piece : Text} (h : piece ∈ text.pieces) :
    ∃ body, '\n' ∉ body ∧ (piece = body ∨ piece = body ++ ['\n']) := by
  induction text generalizing piece with
  | nil => cases h
  | cons c text ih =>
    rw [pieces] at h
    split at h
    · next hc =>
      rcases List.mem_cons.1 h with rfl | h
      · exact ⟨[], nofun, .inr (by rw [hc, List.nil_append])⟩
      · exact ih h
    · next hc =>
      have hne : '\n' ≠ c := Ne.symm hc
      split at h
      · rw [List.mem_singleton.1 h]
        exact ⟨[c], by simp [hne], .inl rfl⟩
      · next first others hp =>
        rw [hp] at ih
        rcases List.mem_cons.1 h with rfl | h
        · obtain ⟨body, hbody, rfl | rfl⟩ := ih List.mem_cons_self
          · exact ⟨c :: first, by simp [hne, hbody], .inl rfl⟩
          · exact ⟨c :: body, by simp [hne, hbody], .inr rfl⟩
        · exact ih (List.mem_cons_of_mem _ h)

theorem dropLineEnding_newline (body : Text) : dropLineEnding (body ++ ['\n']) <+: body := by
  rw [dropLineEnding, List.reverse_append]
  split
  · next rest h =>
    obtain ⟨-, hbody⟩ := List.cons.inj h
    rw [List.reverse_eq_cons_iff.1 hbody]
    exact List.prefix_append _ _
  · next rest _ h =>
    obtain rfl : body.reverse = rest := (List.cons.inj h).2
    simp
  · next h => exact absurd rfl (h _)

theorem dropLineEnding_newline_of_not_mem {body : Text} (h : '\r' ∉ body) :
    dropLineEnding (body ++ ['\n']) = body := by
  rw [dropLineEnding, List.reverse_append]
  split
  · next rest hr =>
    obtain ⟨-, hbody⟩ := List.cons.inj hr
    rw [List.reverse_eq_cons_iff.1 hbody] at h
    simp at h
  · next rest _ hr =>
    obtain rfl : body.reverse = rest := (List.cons.inj hr).2
    exact List.reverse_reverse body
  · next hr => exact absurd rfl (hr _)

theorem dropLineEnding_of_not_mem {body : Text} (h : '\n' ∉ body) : dropLineEnding body = body := by
  rw [← List.mem_reverse] at h
  rw [dropLineEnding]
  split
  · next hr => simp [hr] at h
  · next hr => simp [hr] at h
  · rfl

theorem mem_of_mem_lines {text line : Text} (h : line ∈ text.lines) {c : Char} (hc : c ∈ line) :
    c ∈ text ∧ c ≠ '\n' := by
  obtain ⟨piece, hp, rfl⟩ := List.mem_map.1 h
  obtain ⟨body, hbody, hpiece⟩ := exists_body_of_mem_pieces hp
  have hcbody : c ∈ body := by
    rcases hpiece with rfl | rfl
    · rwa [dropLineEnding_of_not_mem hbody] at hc
    · exact (dropLineEnding_newline body).mem hc
  refine ⟨?_, fun hn => hbody (hn ▸ hcbody)⟩
  rw [← flatten_pieces text]
  exact List.mem_flatten.2 ⟨piece, hp, by rcases hpiece with rfl | rfl <;> simp [hcbody]⟩

theorem pieces_of_not_mem {text : Text} (h : '\n' ∉ text) (hne : text ≠ []) :
    text.pieces = [text] := by
  induction text with
  | nil => exact absurd rfl hne
  | cons c text ih =>
    obtain ⟨hc, ht⟩ := not_or.1 (mt List.mem_cons.2 h)
    rw [pieces, if_neg (Ne.symm hc)]
    cases text with
    | nil => rfl
    | cons d text => rw [ih ht (List.cons_ne_nil d text)]

theorem pieces_append_newline (front back : Text) :
    (front ++ '\n' :: back).pieces = (front ++ ['\n']).pieces ++ back.pieces := by
  induction front with
  | nil => rfl
  | cons c front ih =>
    rw [List.cons_append, List.cons_append, pieces, pieces, ih]
    split
    · rfl
    · cases hp : pieces (front ++ ['\n']) with
      | nil =>
        have hflat := flatten_pieces (front ++ ['\n'])
        rw [hp] at hflat
        simp at hflat
      | cons piece rest => rfl

theorem pieces_newline_of_not_mem {body : Text} (h : '\n' ∉ body) :
    (body ++ ['\n']).pieces = [body ++ ['\n']] := by
  induction body with
  | nil => rfl
  | cons c body ih =>
    obtain ⟨hc, hb⟩ := not_or.1 (mt List.mem_cons.2 h)
    rw [List.cons_append, pieces, if_neg (Ne.symm hc), ih hb]

theorem pieces_newline (text : Text) : (text ++ ['\n']).pieces = text.pieces ++ [['\n']] ∨
    ∃ init last, text.pieces = init ++ [last] ∧
      (text ++ ['\n']).pieces = init ++ [last ++ ['\n']] := by
  induction text with
  | nil => exact .inl rfl
  | cons c text ih =>
    by_cases hc : c = '\n'
    · rw [List.cons_append, pieces, pieces, if_pos hc, if_pos hc]
      rcases ih with h | ⟨init, last, h, hn⟩
      · exact .inl (congrArg _ h)
      · exact .inr ⟨[c] :: init, last, congrArg _ h, congrArg _ hn⟩
    · rw [List.cons_append, pieces, pieces, if_neg hc, if_neg hc]
      rcases ih with h | ⟨init, last, h, hn⟩
      · rw [h]
        cases pieces text with
        | nil => exact .inr ⟨[], [c], rfl, rfl⟩
        | cons piece rest => exact .inl rfl
      · rw [h, hn]
        cases init with
        | nil => exact .inr ⟨[], c :: last, rfl, rfl⟩
        | cons piece init => exact .inr ⟨(c :: piece) :: init, last, rfl, rfl⟩

theorem lines_append_newline (front back : Text) :
    (front ++ '\n' :: back).lines = (front ++ ['\n']).lines ++ back.lines := by
  rw [lines, lines, lines, pieces_append_newline, List.map_append]

theorem lines_of_not_mem {text : Text} (h : '\n' ∉ text) (hne : text ≠ []) :
    text.lines = [text] := by
  rw [lines, pieces_of_not_mem h hne, List.map_singleton, dropLineEnding_of_not_mem h]

theorem lines_newline {body : Text} (hn : '\n' ∉ body) (hr : '\r' ∉ body) :
    lines (body ++ ['\n']) = [body] := by
  rw [lines, pieces_newline_of_not_mem hn, List.map_singleton, dropLineEnding_newline_of_not_mem hr]

theorem lines_flatMap_newline {bodies : List Text}
    (h : ∀ body ∈ bodies, '\n' ∉ body ∧ '\r' ∉ body) :
    lines (bodies.flatMap (· ++ ['\n'])) = bodies := by
  induction bodies with
  | nil => rfl
  | cons body bodies ih =>
    obtain ⟨⟨hn, hr⟩, hbodies⟩ := List.forall_mem_cons.1 h
    rw [List.flatMap_cons, List.append_assoc, List.singleton_append, lines_append_newline,
      lines_newline hn hr, ih hbodies, List.singleton_append]

/-- How many lines are above the line of a character. -/
def lineAt (text : Text) (i : Nat) : Nat := (text.take i).count '\n'

/-- How many characters are in front of a character on its line. -/
def offsetAt (text : Text) (i : Nat) : Nat := ((text.take i).reverse.takeWhile (· ≠ '\n')).length

theorem lineAt_append (front back : Text) (i : Nat) :
    lineAt (front ++ back) (front.length + i) = front.count '\n' + lineAt back i := by
  rw [lineAt, List.take_length_add_append, List.count_append, lineAt]

theorem lineAt_append_left {front : Text} {i : Nat} (h : i ≤ front.length) (back : Text) :
    lineAt (front ++ back) i = lineAt front i := by
  rw [lineAt, List.take_append_of_le_length h, lineAt]

theorem offsetAt_append_left {front : Text} {i : Nat} (h : i ≤ front.length) (back : Text) :
    offsetAt (front ++ back) i = offsetAt front i := by
  rw [offsetAt, List.take_append_of_le_length h, offsetAt]

theorem offsetAt_append_newline (front back : Text) (i : Nat) :
    offsetAt (front ++ '\n' :: back) (front.length + 1 + i) = offsetAt back i := by
  have htake : (front ++ '\n' :: back).take (front.length + 1 + i) =
      front ++ '\n' :: back.take i := by
    rw [Nat.add_assoc, List.take_length_add_append, Nat.add_comm 1 i, List.take_succ_cons]
  rw [offsetAt, offsetAt, htake, List.reverse_append, List.reverse_cons, List.append_assoc,
    List.takeWhile_append]
  split
  · next h =>
    rw [h]
    simp
  · rfl

theorem offsetAt_eq_self_iff {text : Text} {i : Nat} (h : i ≤ text.length) :
    offsetAt text i = i ↔ '\n' ∉ text.take i := by
  have hlength : (text.take i).reverse.length = i := by
    rw [List.length_reverse, List.length_take_of_le h]
  have hself : offsetAt text i = i ↔
      (text.take i).reverse.takeWhile (· ≠ '\n') = (text.take i).reverse :=
    ⟨fun heq => (List.takeWhile_prefix _).eq_of_length (heq.trans hlength.symm),
      fun heq => by rw [offsetAt, heq, hlength]⟩
  rw [hself, List.takeWhile_eq_self_iff]
  constructor
  · intro hall hm
    simpa using hall _ (List.mem_reverse.2 hm)
  · intro hm c hc
    exact decide_eq_true fun hn => hm (hn ▸ List.mem_reverse.1 hc)

end FieldQuery.Text
