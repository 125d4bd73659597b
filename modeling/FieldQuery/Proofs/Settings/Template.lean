import FieldQuery.Proofs.Text.Lines
import FieldQuery.Proofs.Toml.Document
import FieldQuery.Settings.Layer
import FieldQuery.Settings.Template
import Mathlib.Data.List.Forall2
set_option autoImplicit false

namespace FieldQuery

namespace Template

open Toml (isForbidden)

def Commentable (text : Text) : Prop := ∀ c ∈ text, isForbidden c = false ∨ c = '\n'

instance (text : Text) : Decidable (Commentable text) :=
  List.decidableBAll (fun c => isForbidden c = false ∨ c = '\n') text

theorem commentable_append {front back : Text} :
    Commentable (front ++ back) ↔ Commentable front ∧ Commentable back :=
  List.forall_mem_append

theorem commentable_literal {text : Text} (h : Commentable text) :
    Commentable (String.ofList text).toList := by
  rwa [String.toList_ofList]

theorem commentable_localExample : Commentable localExample := by
  unfold localExample outputSection prettySetting colorSetting logSection
  simp only [commentable_append]
  and_intros <;> exact commentable_literal (by decide)

theorem commentable_globalExample : Commentable globalExample := by
  unfold globalExample outputSection colorSetting logSection
  simp only [commentable_append]
  and_intros <;> exact commentable_literal (by decide)

/-- A line of an example and what stands for it in the template. -/
inductive CommentedOut : Text → Text → Prop where
  | empty : CommentedOut [] []
  | comment (line : Text) : CommentedOut ('#' :: line) ('#' :: line)
  | setting {line : Text} : line ≠ [] → line.head? ≠ some '#' →
      CommentedOut line ('#' :: ' ' :: line)

/-- The template has the lines of the example, each of them commented out and ended by a newline. -/
structure Comments (sample template : Text) : Prop where
  lines : List.Forall₂ CommentedOut sample.lines template.lines
  ended : template = template.lines.flatMap (· ++ ['\n'])

theorem CommentedOut.empty_or_sign {line commented : Text} (h : CommentedOut line commented) :
    commented = [] ∨ commented.head? = some '#' := by
  cases h with
  | empty => exact .inl rfl
  | comment line => exact .inr rfl
  | setting _ _ => exact .inr rfl

theorem Comments.empty_or_sign {sample template : Text} (h : Comments sample template) :
    ∀ line ∈ template.lines, line = [] ∨ line.head? = some '#' := by
  have hlines := h.lines
  generalize sample.lines = samples, template.lines = lines at hlines
  induction hlines with
  | nil => exact List.forall_mem_nil _
  | cons hline _ ih => exact List.forall_mem_cons.2 ⟨hline.empty_or_sign, ih⟩

def commented (line : Text) : Text :=
  (if line.isEmpty || line.head? = some '#' then [] else ['#', ' ']) ++ line

theorem commentedOut_commented (line : Text) : CommentedOut line (commented line) := by
  cases line with
  | nil => exact .empty
  | cons c line =>
    by_cases hc : c = '#'
    · subst hc
      exact .comment line
    · have hsign : commented (c :: line) = '#' :: ' ' :: c :: line := by simp [commented, hc]
      rw [hsign]
      exact .setting (List.cons_ne_nil c line) (by simpa using hc)

theorem commentOut_eq (text : Text) :
    commentOut text = (text.lines.map commented).flatMap (· ++ ['\n']) := by
  rw [List.flatMap_map]
  rfl

theorem Commentable.not_mem_return {text : Text} (h : Commentable text) : '\r' ∉ text := by
  intro hr
  rcases h _ hr with hc | hc <;> revert hc <;> decide

theorem comments_commentOut {text : Text} (h : Commentable text) :
    Comments text (commentOut text) := by
  have hlines : (commentOut text).lines = text.lines.map commented := by
    rw [commentOut_eq, Text.lines_flatMap_newline]
    rintro line hline
    obtain ⟨body, hbody, rfl⟩ := List.mem_map.1 hline
    have hmem (c : Char) (hc : c ∈ body) := Text.mem_of_mem_lines hbody hc
    have hn : '\n' ∉ body := fun hc => (hmem _ hc).2 rfl
    have hr : '\r' ∉ body := fun hc => h.not_mem_return (hmem _ hc).1
    unfold commented
    split <;> simp [hn, hr]
  refine ⟨?_, by rw [hlines, commentOut_eq]⟩
  rw [hlines, List.forall₂_map_right_iff]
  exact List.forall₂_same.2 fun line _ => commentedOut_commented line

theorem commented_cases (line : Text) : commented line = [] ∨
    ∃ comment, commented line = '#' :: comment ∧ ∀ c ∈ comment, c = ' ' ∨ c ∈ line := by
  have h := commentedOut_commented line
  generalize commented line = template at h
  cases h with
  | empty => exact .inl rfl
  | comment line => exact .inr ⟨line, rfl, fun c hc => .inr (List.mem_cons_of_mem _ hc)⟩
  | setting _ _ => exact .inr ⟨' ' :: line, rfl, fun c hc => List.mem_cons.1 hc⟩

theorem leads_commented (r : Toml.Reading) {line : Text} (h : ∀ c ∈ line, isForbidden c = false) :
    r.Leads (commented line ++ ['\n']) r := by
  rcases commented_cases line with hl | ⟨comment, hl, hc⟩ <;> rw [hl]
  · exact .empty r
  · refine .comment r fun c hmem => ?_
    rcases hc c hmem with rfl | hmem
    · decide
    · exact h c hmem

theorem leads_commentOut (r : Toml.Reading) {text : Text} (h : Commentable text) :
    r.Leads (commentOut text) r := by
  have hlines : ∀ line ∈ text.lines, ∀ c ∈ line, isForbidden c = false := by
    intro line hl c hc
    obtain ⟨hmem, hn⟩ := Text.mem_of_mem_lines hl hc
    exact (h c hmem).resolve_right hn
  rw [commentOut_eq]
  generalize text.lines = lines at hlines
  induction lines with
  | nil => exact .refl r
  | cons line lines ih =>
    rw [List.forall_mem_cons] at hlines
    rw [List.map_cons, List.flatMap_cons]
    exact (leads_commented r hlines.1).append (ih hlines.2)

theorem head?_commentOut (text : Text) : (commentOut text).head? ≠ some '\ufeff' := by
  rw [commentOut_eq]
  cases text.lines with
  | nil => simp
  | cons line lines =>
    rcases commented_cases line with hl | ⟨comment, hl, -⟩ <;> simp [hl]

theorem ofToml?_commentOut {text : Text} (h : Commentable text) :
    Layer.ofToml? (commentOut text) = some ⟨none, none, none⟩ := by
  rw [Layer.ofToml?, Toml.document?_of_leads (leads_commentOut _ h) (head?_commentOut text)]
  rfl

theorem ofToml?_forDirectory : Layer.ofToml? forDirectory = some ⟨none, none, none⟩ :=
  ofToml?_commentOut commentable_localExample

theorem ofToml?_forHome : Layer.ofToml? forHome = some ⟨none, none, none⟩ :=
  ofToml?_commentOut commentable_globalExample

end Template

end FieldQuery
