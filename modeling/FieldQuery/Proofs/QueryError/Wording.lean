import FieldQuery.Proofs.QueryError.Column
import FieldQuery.Proofs.Text.Parts
set_option autoImplicit false

/-! The wording of the errors of a reading. What a query is refused with holds no text of the query,
so its message is a single line. The one fault that would quote a token is about an operator that no
query is cut into. -/

namespace FieldQuery

def Text.OneLine (text : Text) : Prop := ∀ c ∈ text, c ≠ '\n' ∧ c ≠ '\r'

namespace Text

instance (text : Text) : Decidable (OneLine text) :=
  List.decidableBAll (fun c => c ≠ '\n' ∧ c ≠ '\r') text

theorem oneLine_append {front back : Text} :
    OneLine (front ++ back) ↔ OneLine front ∧ OneLine back :=
  List.forall_mem_append

theorem oneLine_around {front inner back : Text} (hf : OneLine front) (hi : OneLine inner)
    (hb : OneLine back) : OneLine (front ++ inner ++ back) :=
  oneLine_append.2 ⟨oneLine_append.2 ⟨hf, hi⟩, hb⟩

theorem oneLine_decimal (n : Nat) : OneLine (decimal n) := by
  intro c hc
  have hdigit := Nat.isDigit_of_mem_toDigits (by decide) (by decide) hc
  constructor
  · rintro rfl
    exact absurd hdigit (by decide)
  · rintro rfl
    exact absurd hdigit (by decide)

theorem oneLine_intercalate {sep : Text} {parts : List Text} (hs : OneLine sep)
    (h : ∀ part ∈ parts, OneLine part) : OneLine (sep.intercalate parts) :=
  forall_mem_intercalate hs h

end Text

namespace Fault

/-- A fault that quotes neither a token nor the caller. -/
def QuotesNothing : Fault → Prop
  | .unknownOperator _ => False
  | .worded _ => False
  | _ => True

theorem oneLine_name (kind : Kind) : Text.OneLine kind.name := by
  cases kind <;> decide

theorem oneLine_kindList (kinds : List Kind) : Text.OneLine (kindList kinds) := by
  refine Text.oneLine_intercalate (by decide) fun part h => ?_
  obtain ⟨kind, -, rfl⟩ := List.mem_map.1 h
  exact oneLine_name kind

theorem QuotesNothing.oneLine_message {fault : Fault} (h : fault.QuotesNothing) :
    Text.OneLine fault.message := by
  cases fault with
  | unknownOperator text => exact h.elim
  | worded message => exact h.elim
  | unexpected kind => exact Text.oneLine_around (by decide) (oneLine_name kind) (by decide)
  | unexpectedAmong kind wanted =>
    exact Text.oneLine_around (Text.oneLine_around (by decide) (oneLine_name kind) (by decide))
      (oneLine_kindList wanted) (by decide)
  | missingOperand kind => exact Text.oneLine_around (by decide) (oneLine_name kind) (by decide)
  | expected wanted received =>
    exact Text.oneLine_around (Text.oneLine_around (by decide) (oneLine_name wanted) (by decide))
      (oneLine_name received) (by decide)
  | expectedAtEnd wanted => exact Text.oneLine_around (by decide) (oneLine_name wanted) (by decide)
  | endAfterNegator wanted =>
    exact Text.oneLine_around (by decide) (oneLine_kindList wanted) (by decide)
  | tooDeep => exact Text.oneLine_around (by decide) (Text.oneLine_decimal maxDepth) (by decide)
  | tooManyClosed | emptyGroup | endAfterOperator | unclosed | emptyQuery => decide

end Fault

/-- A token whose text can be read as its kind asks. -/
def Token.Reads (t : Token) : Prop :=
  t.kind = .logicalOperator → ∃ op, Op.ofText? t.text = some op

namespace Parser.State

variable {s : State} {t : Token} {fault : Fault} {column : Option Nat}

theorem quotesNothing_of_logicalOperator (ht : ∃ op, Op.ofText? t.text = some op)
    (h : s.logicalOperator t = .error (.semantic fault column)) : fault.QuotesNothing := by
  obtain ⟨op, hop⟩ := ht
  unfold logicalOperator at h
  grind [Fault.QuotesNothing]

theorem quotesNothing_of_dispatch (ht : t.Reads)
    (h : s.dispatch t = .error (.semantic fault column)) : fault.QuotesNothing := by
  cases hc : s.checkAdjacency t with
  | error e =>
    simp [dispatch, hc, bind, Except.bind] at h
    subst h
    unfold checkAdjacency at hc
    grind [Fault.QuotesNothing]
  | ok u =>
    rw [dispatch_of_admits (checkAdjacency_eq_ok_iff.1 hc)] at h
    cases hk : t.kind with
    | openGroup =>
      simp only [hk, openGroup] at h
      grind [Fault.QuotesNothing]
    | closeGroup =>
      simp only [hk, closeGroup] at h
      grind [Fault.QuotesNothing]
    | logicalOperator => exact quotesNothing_of_logicalOperator (ht hk) (by simpa [hk] using h)
    | comparator =>
      simp only [hk, Except.error.injEq, QueryError.semantic.injEq] at h
      exact h.1 ▸ trivial
    | _ => simp [hk] at h

theorem quotesNothing_of_step (ht : t.Reads) (h : s.step t = .error (.semantic fault column)) :
    fault.QuotesNothing := by
  unfold step at h
  split at h
  · cases h
  · split at h
    · next awaited _ =>
      unfold supply at h
      grind [Fault.QuotesNothing]
    · exact quotesNothing_of_dispatch ht h

theorem quotesNothing_of_finish (h : s.finish = .error (.semantic fault column)) :
    fault.QuotesNothing := by
  unfold finish at h
  grind [Fault.QuotesNothing]

end Parser.State

namespace Lexeme

theorem StandsBefore.reads {lexeme : Lexeme} {rest : Text} (h : lexeme.StandsBefore rest)
    (column : Nat) : Token.Reads ⟨lexeme.kind, lexeme.text, column⟩ := by
  intro hk
  cases h with
  | operator op => exact ⟨op, op.ofText?_keyword⟩
  | _ => cases hk

theorem Lexes.reads {text rest : Text} {lexemes : List Lexeme} (h : Lexes text lexemes rest)
    {column : Nat} : ∀ t ∈ placed column lexemes, t.Reads := by
  induction h generalizing column with
  | done => exact nofun
  | cons hf _ ih => exact List.forall_mem_cons.2 ⟨(first?_eq_some_iff.1 hf).2.reads column, ih⟩

end Lexeme

theorem reads_of_mem_tokens {query : Text} {t : Token}
    (h : t ∈ Cursor.tokens (Tokenizer.ofText query)) : t.Reads := by
  obtain ⟨lexemes, rest, hl, hr⟩ := Lexeme.exists_lexes query
  rw [(Tokenizer.gives_ofText hl hr).1] at h
  exact hl.reads t h

theorem QueryError.oneLine_display_recognition (text : Text) (offset : Nat) :
    (recognition text offset).display.OneLine :=
  Text.oneLine_around (by decide) (Text.oneLine_decimal offset) (by decide)

theorem QueryError.oneLine_display_semantic {fault : Fault} (h : fault.QuotesNothing)
    (column : Option Nat) : (semantic fault column).display.OneLine :=
  Text.oneLine_append.2 ⟨by decide, h.oneLine_message⟩

theorem RefusedWith.oneLine_display {query : Text} {e : QueryError} (h : RefusedWith query e) :
    e.display.OneLine := by
  rcases Parser.State.conclude_error h.conclude_eq with hs | ⟨t, hm, _, hs⟩ | ⟨_, hf⟩
  · obtain ⟨column, rfl, -, -⟩ := exists_ending_of_stop hs
    exact QueryError.oneLine_display_recognition query column
  · obtain ⟨_, rfl⟩ := Parser.State.step_error hs
    have hfault := Parser.State.quotesNothing_of_step (reads_of_mem_tokens hm) hs
    exact QueryError.oneLine_display_semantic hfault _
  · obtain ⟨_, rfl⟩ := Parser.State.finish_error hf
    exact QueryError.oneLine_display_semantic (Parser.State.quotesNothing_of_finish hf) _

end FieldQuery
