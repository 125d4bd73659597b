import FieldQuery.Proofs.Parser.Ahead
import FieldQuery.Proofs.Parser.Stop
set_option autoImplicit false

namespace FieldQuery.Parser

open Cursor

variable {σ : Type} [Cursor σ]

/-- How a reading uses a cursor that has made some moves since its start. -/
structure ReadsForward (start : σ) (moves : Nat) : Prop where
  fresh_eq : ∀ {τ : Type} [Cursor τ] (fresh : τ), tokens fresh = (tokens start).drop moves →
    stop fresh = stop start → (read (advance moves start)).1 = (read fresh).1
  result_eq : (read (advance moves start)).1 =
    stoppedBy (stop start) (parseTokens ((tokens start).drop moves))
  read_to_end : ∀ {node stopped}, read (advance moves start) = (.ok node, stopped) →
    Stays (.ok none) stopped
  refused_at_end : ∀ {fault stopped},
    read (advance moves start) = (.error (.semantic fault none), stopped) →
    Stays (.ok none) stopped
  refused : ∀ {fault column stopped},
    read (advance moves start) = (.error (.semantic fault (some column)), stopped) →
    ∃ before t s, (tokens start).drop moves = before ++ t :: tokens stopped ∧
      stop stopped = stop start ∧ current stopped = some t ∧ t.column = column ∧
      State.initial.run before = .ok s ∧ s.step t = .error (.semantic fault (some column))
  failed : ∀ {input offset stopped},
    read (advance moves start) = (.error (.recognition input offset), stopped) →
    stop start = some (.recognition input offset) ∧
      Stays (.error (.recognition input offset)) stopped
  reset_eq : reset (read (advance moves start)).2 = reset start

theorem stays_of_read [Lawful σ] [Lexical σ] {c stopped : σ} {result : Except QueryError Node}
    (h : read c = (result, stopped)) (hc : ∀ e, result = .error e → e.column = none) :
    Stays (.ok none) stopped := by
  obtain ⟨hstop, rfl, -⟩ := ends_of_read h hc
  have hstays := stays_advance c
  rwa [hstop] at hstays

theorem readsForward_of_lawful [Lawful σ] [Lexical σ] (start : σ) (moves : Nat) :
    ReadsForward start moves := by
  obtain ⟨htokens, hstop⟩ := gives_advance moves start
  have hread : (read (advance moves start)).1 =
      State.initial.conclude ((tokens start).drop moves) (stop start) := by
    rw [read_conclude, htokens, hstop]
  constructor
  case fresh_eq =>
    intro τ _ fresh ht hs
    rw [hread, read_conclude, ht, hs]
  case result_eq => rw [hread, State.conclude_stoppedBy, parseTokens_conclude]
  case read_to_end =>
    intro node stopped h
    exact stays_of_read h nofun
  case refused_at_end =>
    intro fault stopped h
    exact stays_of_read h (by rintro _ ⟨⟩; rfl)
  case refused =>
    intro fault column stopped h
    obtain ⟨before, t, s, ht, hcur, hcol, hr, hs⟩ := stands_of_read h
    obtain ⟨n, hn⟩ := exists_advance (advance moves start)
    rw [h] at hn
    subst hn
    rw [htokens] at ht
    exact ⟨before, t, s, ht, (gives_advance n _).2.trans hstop, hcur, hcol, hr, hs⟩
  case failed =>
    intro input offset stopped h
    cases outcome_of_read h with
    | refused _ _ hs =>
      obtain ⟨_, he⟩ := State.step_error hs
      cases he
    | ended _ _ hf =>
      obtain ⟨_, he⟩ := State.finish_error hf
      cases he
    | failed _ he =>
      have hstays := stays_advance (advance moves start)
      rw [he] at hstays
      exact ⟨hstop.symm.trans he, hstays⟩
  case reset_eq =>
    obtain ⟨n, hn⟩ := exists_advance (advance moves start)
    rw [hn, reset_advance, reset_advance]

/-- Each of the four cursors, moved any number of times, is read from where it stands, and left on
the refused token or behind its last one. -/
theorem reads_forward (moves : Nat) :
    (∀ start : Tokenizer, ReadsForward start moves) ∧
      (∀ start : Replay, ReadsForward start moves) ∧
      (∀ start : SkipWhitespace Tokenizer, ReadsForward start moves) ∧
      ∀ start : SkipWhitespace Replay, ReadsForward start moves :=
  ⟨fun start => readsForward_of_lawful start moves, fun start => readsForward_of_lawful start moves,
    fun start => readsForward_of_lawful start moves, fun start => readsForward_of_lawful start moves⟩

theorem reads_forward_behind_parenthesis :
    (∃ stopped, read (advance 1 (Tokenizer.ofText "(a:1 ) \"".toList)) =
        (.error (.semantic .tooManyClosed (some 5)), stopped) ∧
      current stopped = some ⟨.closeGroup, [')'], 5⟩ ∧
      tokens stopped = [⟨.whitespace, [' '], 6⟩] ∧
      stop stopped = some (.recognition "(a:1 ) \"".toList 7)) ∧
    ∃ stopped, read (advance 0 (Tokenizer.ofText "(a:1 ) \"".toList)) =
        (.error (.recognition "(a:1 ) \"".toList 7), stopped) ∧
      Stays (.error (.recognition "(a:1 ) \"".toList 7)) stopped := by
  have hrefused : read (advance 1 (Tokenizer.ofText "(a:1 ) \"".toList)) =
      (.error (.semantic .tooManyClosed (some 5)),
        ⟨"(a:1 ) \"".toList, " \"".toList, 6, some ⟨.closeGroup, [')'], 5⟩⟩) := by rfl
  have hfailed : read (advance 0 (Tokenizer.ofText "(a:1 ) \"".toList)) =
      (.error (.recognition "(a:1 ) \"".toList 7),
        ⟨"(a:1 ) \"".toList, "\"".toList, 7, none⟩) := by rfl
  obtain ⟨_, _, _, -, hstop, -, -, -, -⟩ := ((reads_forward 1).1 _).refused hrefused
  obtain ⟨hstart, hstays⟩ := ((reads_forward 0).1 _).failed hfailed
  exact ⟨⟨_, hrefused, rfl, rfl, hstop.trans hstart⟩, _, hfailed, hstays⟩

end FieldQuery.Parser
