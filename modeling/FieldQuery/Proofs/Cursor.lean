import FieldQuery.Parser
set_option autoImplicit false

namespace FieldQuery

namespace Cursor

variable {σ : Type} [Cursor σ]

/-- A cursor either gives a token and goes on, or ends, or fails; only finitely many tokens come
before it does one of the last two. -/
@[elab_as_elim] theorem induction {motive : σ → Prop}
    (token : ∀ s s' t, next s = (.ok (some t), s') → motive s' → motive s)
    (ended : ∀ s s', next s = (.ok none, s') → motive s)
    (failed : ∀ s s' e, next s = (.error e, s') → motive s) (s : σ) : motive s := by
  induction hn : left s using Nat.strongRecOn generalizing s with
  | ind n ih =>
    match h : next s with
    | (.ok (some t), s') =>
      have hl := left_next h
      exact token s s' t h (ih (left s') (by omega) s' rfl)
    | (.ok none, s') => exact ended s s' h
    | (.error e, s') => exact failed s s' e h

def tokens (s : σ) : List Token := (drain s).1.1

def stop (s : σ) : Option QueryError := (drain s).1.2

theorem drainWithin_fuel {fuel more : Nat} {s : σ} (h : left s < fuel) (hm : left s < more) :
    drainWithin fuel s = drainWithin more s := by
  induction fuel generalizing more s with
  | zero => omega
  | succ fuel ih =>
    cases more with
    | zero => omega
    | succ more =>
      match hn : next s with
      | (.ok (some t), s') =>
        have hl := left_next hn
        have hd : drainWithin fuel s' = drainWithin more s' := ih (by omega) (by omega)
        simp [drainWithin, hn, hd]
      | (.ok none, s') => simp [drainWithin, hn]
      | (.error e, s') => simp [drainWithin, hn]

theorem drain_token {s s' : σ} {t : Token} (h : next s = (.ok (some t), s')) :
    drain s = ((t :: tokens s', stop s'), (drain s').2) := by
  have hl := left_next h
  have hd : drainWithin (left s) s' = drain s' := drainWithin_fuel hl (by omega)
  simp [drain, drainWithin, h, hd, tokens, stop]

theorem drain_ended {s s' : σ} (h : next s = (.ok none, s')) : drain s = (([], none), s') := by
  simp [drain, drainWithin, h]

theorem drain_failed {s s' : σ} {e : QueryError} (h : next s = (.error e, s')) :
    drain s = (([], some e), s') := by
  simp [drain, drainWithin, h]

theorem tokens_token {s s' : σ} {t : Token} (h : next s = (.ok (some t), s')) :
    tokens s = t :: tokens s' := by
  simp [tokens, drain_token h]

theorem stop_token {s s' : σ} {t : Token} (h : next s = (.ok (some t), s')) :
    stop s = stop s' := by
  simp [stop, drain_token h]

theorem drain_congr {s u : σ} (h : next s = next u) : drain s = drain u := by
  match hn : next s with
  | (.ok (some t), s') => rw [drain_token hn, drain_token (h.symm.trans hn)]
  | (.ok none, s') => rw [drain_ended hn, drain_ended (h.symm.trans hn)]
  | (.error e, s') => rw [drain_failed hn, drain_failed (h.symm.trans hn)]

end Cursor

namespace Replay

theorem gives_rest (s : Replay) : Cursor.tokens s = s.rest ∧ Cursor.stop s = none := by
  induction s using Cursor.induction with
  | token s s' t h ih =>
    rw [Cursor.tokens_token h, Cursor.stop_token h, ih.1, ih.2]
    cases hr : s.rest with
    | nil => simp [Cursor.next, next, hr] at h
    | cons u rest =>
      simp [Cursor.next, next, hr] at h
      obtain ⟨rfl, rfl⟩ := h
      simp
  | ended s s' h =>
    cases hr : s.rest with
    | nil => simp [Cursor.tokens, Cursor.stop, Cursor.drain_ended h]
    | cons u rest => simp [Cursor.next, next, hr] at h
  | failed s s' e h => cases hr : s.rest <;> simp [Cursor.next, next, hr] at h

end Replay

def significant (tokens : List Token) : List Token := tokens.filter (·.kind ≠ .whitespace)

@[simp] theorem significant_nil : significant [] = [] := rfl

@[simp] theorem significant_append (ts us : List Token) :
    significant (ts ++ us) = significant ts ++ significant us := by
  simp [significant]

theorem significant_cons_of_eq {t : Token} (h : t.kind = .whitespace) (ts : List Token) :
    significant (t :: ts) = significant ts := by
  simp [significant, h]

theorem significant_cons_of_ne {t : Token} (h : t.kind ≠ .whitespace) (ts : List Token) :
    significant (t :: ts) = t :: significant ts := by
  simp [significant, h]

namespace SkipWhitespace

variable {σ : Type} [Cursor σ]

theorem nextWithin_fuel {fuel more : Nat} {s : σ} (h : Cursor.left s < fuel)
    (hm : Cursor.left s < more) : nextWithin fuel s = nextWithin more s := by
  induction fuel generalizing more s with
  | zero => omega
  | succ fuel ih =>
    cases more with
    | zero => omega
    | succ more =>
      match hn : Cursor.next s with
      | (.ok (some t), s') =>
        have hl := Cursor.left_next hn
        have hr : nextWithin fuel s' = nextWithin more s' := ih (by omega) (by omega)
        simp [nextWithin, hn, hr]
      | (.ok none, s') => simp [nextWithin, hn]
      | (.error e, s') => simp [nextWithin, hn]

theorem next_of_whitespace {s s' : σ} {t : Token} (h : Cursor.next s = (.ok (some t), s'))
    (ht : t.kind = .whitespace) :
    Cursor.next (SkipWhitespace.mk s) = Cursor.next (SkipWhitespace.mk s') := by
  have hl := Cursor.left_next h
  have hr : nextWithin (Cursor.left s) s' = nextWithin (Cursor.left s' + 1) s' :=
    nextWithin_fuel hl (by omega)
  simp [Cursor.next, nextWithin, h, ht, hr]

theorem next_of_significant {s s' : σ} {t : Token} (h : Cursor.next s = (.ok (some t), s'))
    (ht : t.kind ≠ .whitespace) :
    Cursor.next (SkipWhitespace.mk s) = (.ok (some t), SkipWhitespace.mk s') := by
  simp [Cursor.next, nextWithin, h, ht]

/-- Hiding whitespace takes the whitespace tokens out and changes nothing else. -/
theorem gives_significant (s : σ) :
    Cursor.tokens (SkipWhitespace.mk s) = significant (Cursor.tokens s) ∧
      Cursor.stop (SkipWhitespace.mk s) = Cursor.stop s := by
  induction s using Cursor.induction with
  | token s s' t h ih =>
    rw [Cursor.tokens_token h, Cursor.stop_token h]
    by_cases ht : t.kind = .whitespace
    · have hd := Cursor.drain_congr (next_of_whitespace h ht)
      rw [significant_cons_of_eq ht]
      simpa [Cursor.tokens, Cursor.stop, hd] using ih
    · have hn := next_of_significant h ht
      rw [Cursor.tokens_token hn, Cursor.stop_token hn, significant_cons_of_ne ht, ih.1]
      exact ⟨rfl, ih.2⟩
  | ended s s' h =>
    have hn : Cursor.next (SkipWhitespace.mk s) = (.ok none, SkipWhitespace.mk s') := by
      simp [Cursor.next, nextWithin, h]
    simp [Cursor.tokens, Cursor.stop, Cursor.drain_ended hn, Cursor.drain_ended h]
  | failed s s' e h =>
    have hn : Cursor.next (SkipWhitespace.mk s) = (.error e, SkipWhitespace.mk s') := by
      simp [Cursor.next, nextWithin, h]
    simp [Cursor.tokens, Cursor.stop, Cursor.drain_failed hn, Cursor.drain_failed h]

end SkipWhitespace

namespace Parser

variable {σ : Type} [Cursor σ]

theorem State.step_whitespace (s : State) {t : Token} (h : t.kind = .whitespace) :
    s.step t = .ok s := by
  simp [step, h]

@[simp] theorem State.run_nil (s : State) : s.run [] = .ok s := rfl

theorem State.run_cons (s : State) (t : Token) (ts : List Token) :
    s.run (t :: ts) = s.step t >>= fun next => next.run ts := rfl

theorem State.run_append (s : State) (ts us : List Token) :
    s.run (ts ++ us) = s.run ts >>= fun next => next.run us := by
  simp [run, List.foldlM_append]

theorem State.run_cons_of_step {s s' : State} {t : Token} (h : s.step t = .ok s')
    (ts : List Token) : s.run (t :: ts) = s'.run ts := by
  rw [run_cons, h]
  rfl

theorem State.run_append_of_run {s s' : State} {ts : List Token} (h : s.run ts = .ok s')
    (us : List Token) : s.run (ts ++ us) = s'.run us := by
  rw [run_append, h]
  rfl

theorem State.run_cons_of_error {s : State} {t : Token} {e : QueryError} (h : s.step t = .error e)
    (ts : List Token) : s.run (t :: ts) = .error e := by
  rw [run_cons, h]
  rfl

theorem State.run_append_of_error {s : State} {ts : List Token} {e : QueryError}
    (h : s.run ts = .error e) (us : List Token) : s.run (ts ++ us) = .error e := by
  rw [run_append, h]
  rfl

theorem State.run_of_refused {s s' : State} {before : List Token} {t : Token} {e : QueryError}
    (hr : s.run before = .ok s') (hs : s'.step t = .error e) (more : List Token) :
    s.run (before ++ [t] ++ more) = .error e := by
  rw [List.append_assoc, run_append_of_run hr]
  exact run_cons_of_error hs more

theorem State.run_significant (s : State) (ts : List Token) :
    s.run (significant ts) = s.run ts := by
  induction ts generalizing s with
  | nil => rfl
  | cons t ts ih =>
    by_cases h : t.kind = .whitespace
    · rw [significant_cons_of_eq h, ih, run_cons_of_step (s.step_whitespace h)]
    · rw [significant_cons_of_ne h, run_cons, run_cons]
      simp only [ih]

/-- Reads a list of tokens to its end, where either the text ends or an error stops it. -/
def State.conclude (s : State) (ts : List Token) (stop : Option QueryError) :
    Except QueryError Node :=
  s.run ts >>= fun last => match stop with
    | none => last.finish
    | some e => .error e

theorem State.conclude_of_run {s s' : State} {ts : List Token} (h : s.run ts = .ok s') :
    s.conclude ts none = s'.finish := by
  rw [conclude, h]
  rfl

theorem State.conclude_of_error {s : State} {ts : List Token} {e : QueryError}
    (h : s.run ts = .error e) (stop : Option QueryError) : s.conclude ts stop = .error e := by
  rw [conclude, h]
  rfl

theorem State.conclude_significant (s : State) (ts : List Token) (stop : Option QueryError) :
    s.conclude (significant ts) stop = s.conclude ts stop := by
  rw [conclude, conclude, run_significant]

theorem readWithin_conclude {fuel : Nat} (s : State) {c : σ} (h : Cursor.left c < fuel) :
    (readWithin fuel s c).1 = s.conclude (Cursor.tokens c) (Cursor.stop c) := by
  induction fuel generalizing s c with
  | zero => omega
  | succ fuel ih =>
    match hn : Cursor.next c with
    | (.ok (some t), c') =>
      have hl := Cursor.left_next hn
      have hr := fun next : State => ih next (c := c') (by omega)
      rw [Cursor.tokens_token hn, Cursor.stop_token hn]
      cases hs : s.step t with
      | error e => simp [readWithin, hn, hs, State.conclude, State.run_cons, bind, Except.bind]
      | ok next =>
        simp [readWithin, hn, hs, State.conclude, State.run_cons, bind, Except.bind, hr]
    | (.ok none, c') =>
      simp [readWithin, hn, Cursor.tokens, Cursor.stop, Cursor.drain_ended hn, State.conclude,
        bind, Except.bind]
    | (.error e, c') =>
      simp [readWithin, hn, Cursor.tokens, Cursor.stop, Cursor.drain_failed hn, State.conclude,
        bind, Except.bind]

theorem read_conclude (c : σ) :
    (read c).1 = State.initial.conclude (Cursor.tokens c) (Cursor.stop c) :=
  readWithin_conclude _ (by omega)

theorem read_skipWhitespace (c : σ) : (read (SkipWhitespace.mk c)).1 = (read c).1 := by
  obtain ⟨ht, hs⟩ := SkipWhitespace.gives_significant c
  rw [read_conclude, read_conclude, ht, hs, State.conclude_significant]

end Parser

theorem parseTokens_conclude (ts : List Token) :
    parseTokens ts = Parser.State.initial.conclude ts none := by
  have h := Replay.gives_rest (Replay.ofList ts)
  rw [parseTokens, Parser.read_conclude, h.1, h.2]
  rfl

theorem parse_conclude (query : Text) :
    parse query = Parser.State.initial.conclude (Cursor.tokens (Tokenizer.ofText query))
      (Cursor.stop (Tokenizer.ofText query)) := by
  rw [parse, Parser.read_skipWhitespace, Parser.read_conclude]

theorem tokenize_eq_ok_iff {input : Text} {tokens : List Token} :
    tokenize input = .ok tokens ↔ Cursor.tokens (Tokenizer.ofText input) = tokens ∧
      Cursor.stop (Tokenizer.ofText input) = none := by
  unfold tokenize Cursor.tokens Cursor.stop
  rcases (Cursor.drain (Tokenizer.ofText input)).1 with ⟨given, _ | e⟩ <;> simp

theorem tokenize_eq_error_iff {input : Text} {e : QueryError} :
    tokenize input = .error e ↔ Cursor.stop (Tokenizer.ofText input) = some e := by
  unfold tokenize Cursor.stop
  rcases (Cursor.drain (Tokenizer.ofText input)).1 with ⟨given, _ | e⟩ <;> simp

end FieldQuery
