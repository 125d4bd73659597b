import FieldQuery.Proofs.Parser.Sound
import FieldQuery.Proofs.Parser.Stop
set_option autoImplicit false

/-! Which starts of a query can still become one. Too tall a tree apart, a token is refused only
where no continuation could save the query, and the end of the tokens only where some could. -/

namespace FieldQuery

def Viable (tokens : List Token) : Prop := ∃ more, Derivable (tokens ++ more)

/-- The first token that nothing behind it can save. -/
structure Breaks (before : List Token) (t : Token) : Prop where
  viable : ∀ front, front <+: before → Viable front
  dead : ¬ Viable (before ++ [t])

/-- Nothing is wrong with the tokens but that more have to come. -/
structure Incomplete (tokens : List Token) : Prop where
  viable : Viable tokens
  not_derivable : ¬ Derivable tokens

theorem Viable.of_prefix {front tokens : List Token} (h : Viable tokens) (hp : front <+: tokens) :
    Viable front := by
  obtain ⟨more, hm⟩ := h
  obtain ⟨back, rfl⟩ := hp
  exact ⟨back ++ more, by rwa [← List.append_assoc]⟩

def Token.closing : Token := ⟨.closeGroup, [')'], 0⟩

def Token.equals : Token := ⟨.comparator, [':'], 0⟩

def Token.word : Token := ⟨.text, ['x'], 0⟩

open Token (closing equals word)

namespace Parser

/-- Every open group can be closed behind a phrase. -/
theorem Encloses.exists_phrase {below : List Group} {negated : Bool} {ts us : List Token}
    {p : Phrase} (he : Encloses below negated ts) (hp : p.Spells us) :
    ∃ more, significant more = more ∧ ∃ q : Phrase, q.Spells (ts ++ us ++ more) := by
  induction he generalizing us p with
  | root => exact ⟨[], rfl, p, by simpa using hp⟩
  | @inner _ _ within _ _ _ ns opening _ hd hn ht ho ih =>
    -- The phrase makes the innermost group an operand of the group around it.
    have hgroup : (Operand.group within p).Spells (ns ++ opening :: (us ++ [closing])) :=
      .group hn ho hp rfl
    obtain ⟨more, hm, q, hq⟩ := ih (hd.append hgroup ht)
    refine ⟨closing :: more, ?_, q, by simpa using hq⟩
    rw [significant_cons_of_ne (by decide), hm]

theorem Encloses.exists_phrase_operand {below : List Group} {negated : Bool} {d : Draft}
    {x : Operand} {ts us begun rest : List Token} (he : Encloses below negated ts)
    (hd : d.Spells us) (hx : x.Spells (begun ++ rest)) (ht : d.Takes x.firstKind)
    (hrest : significant rest = rest) :
    ∃ more, significant more = more ∧ ∃ q : Phrase, q.Spells (ts ++ us ++ begun ++ more) := by
  obtain ⟨more, hm, q, hq⟩ := he.exists_phrase (hd.append hx ht)
  exact ⟨rest ++ more, by rw [significant_append, hrest, hm], q, by simpa using hq⟩

theorem Reads.exists_phrase {ts : List Token} {s : State} (h : Reads ts s) :
    ∃ more, significant more = more ∧ ∃ q : Phrase, q.Spells (ts ++ more) := by
  have hcomparison {within : Bool} {ns : List Token} (hn : Negators within ns) :
      (Operand.comparison within word.text word.text).Spells (ns ++ [word, equals, word]) :=
    .comparison hn rfl rfl rfl
  cases h with
  | @between below negated d ts us he hd =>
    cases hd with
    | phrase hp => exact he.exists_phrase hp
    | empty =>
      simpa using he.exists_phrase_operand .empty (hcomparison .none) trivial rfl
    | operator hp hk hop =>
      simpa using he.exists_phrase_operand (.operator hp hk hop) (hcomparison .none) trivial rfl
  | @negator below negated d ts us t he hd ht =>
    exact he.exists_phrase_operand hd (hcomparison (.one ht)) d.takes_negator rfl
  | @key below negated within d ts us ns key he hd hn ht hkey =>
    have hx : (Operand.comparison within key.text word.text).Spells
        ((ns ++ [key]) ++ [equals, word]) := by
      simpa using Operand.Spells.comparison hn hkey rfl rfl
    exact he.exists_phrase_operand hd hx ht rfl
  | @comparator below negated within d ts us ns key comparator he hd hn ht hkey hc =>
    have hx : (Operand.comparison within key.text word.text).Spells
        ((ns ++ [key, comparator]) ++ [word]) := by
      simpa using Operand.Spells.comparison hn hkey hc rfl
    exact he.exists_phrase_operand hd hx ht rfl

theorem viable_of_run {ts : List Token} {s : State} (h : State.initial.run ts = .ok s) :
    Viable ts := by
  obtain ⟨more, hm, q, hq⟩ := (Reads.initial.run h).exists_phrase
  refine ⟨more, q, ?_⟩
  rw [significant_append, hm]
  exact hq

theorem not_derivable_of_conclude {ts : List Token} {fault : Fault} {column : Option Nat}
    (h : State.initial.conclude ts none = .error (.semantic fault column))
    (hf : fault ≠ .tooDeep) : ¬ Derivable ts := by
  rintro ⟨p, hp⟩
  rcases conclude_phrase hp with hc | ⟨⟨_, hc⟩, -⟩
  · rw [h] at hc
    cases hc
  · rw [h, Except.error.injEq, QueryError.semantic.injEq] at hc
    exact hf hc.1

theorem not_viable_of_step_error {before : List Token} {t : Token} {s : State} {fault : Fault}
    {column : Option Nat} (hr : State.initial.run before = .ok s)
    (hs : s.step t = .error (.semantic fault column)) (hf : fault ≠ .tooDeep) :
    ¬ Viable (before ++ [t]) := by
  rintro ⟨more, hd⟩
  have hrun := State.run_of_refused hr hs more
  exact not_derivable_of_conclude (State.conclude_of_error hrun none) hf hd

/-- A token is refused as soon as nothing behind it can save the query. Without a token to refuse,
the query is only incomplete. -/
theorem breaks_or_incomplete_of_read {ts : List Token} {fault : Fault} {column : Option Nat}
    {cursor : Replay}
    (h : read (Replay.ofList ts) = (.error (.semantic fault column), cursor))
    (hf : fault ≠ .tooDeep) :
    match column with
    | some column => ∃ before t, ts = before ++ t :: cursor.rest ∧ cursor.current = some t ∧
        t.column = column ∧ Breaks before t
    | none => cursor.rest = [] ∧ Incomplete ts := by
  cases column with
  | some column =>
    obtain ⟨before, t, s, hts, hcur, hcol, hr, hs⟩ := refused_of_read h
    have hv := viable_of_run hr
    exact ⟨before, t, hts, hcur, hcol, fun _ hp => hv.of_prefix hp,
      not_viable_of_step_error hr hs hf⟩
  | none =>
    obtain ⟨hrest, s, hr, hs⟩ := ended_of_read h
    have hc := (State.conclude_of_run hr).trans hs
    exact ⟨hrest, viable_of_run hr, not_derivable_of_conclude hc hf⟩

theorem breaks_at_second_text :
    read (Replay.ofList [⟨.text, ['a'], 0⟩, ⟨.comparator, [':'], 1⟩, ⟨.text, ['1'], 2⟩,
        ⟨.whitespace, [' '], 3⟩, ⟨.text, ['b'], 4⟩, ⟨.comparator, [':'], 5⟩]) =
      (.error (.semantic (.unexpected .text) (some 4)),
        ⟨[⟨.text, ['a'], 0⟩, ⟨.comparator, [':'], 1⟩, ⟨.text, ['1'], 2⟩,
          ⟨.whitespace, [' '], 3⟩, ⟨.text, ['b'], 4⟩, ⟨.comparator, [':'], 5⟩],
          [⟨.comparator, [':'], 5⟩], some ⟨.text, ['b'], 4⟩⟩) ∧
      Fault.unexpected .text ≠ .tooDeep ∧
      Breaks [⟨.text, ['a'], 0⟩, ⟨.comparator, [':'], 1⟩, ⟨.text, ['1'], 2⟩,
        ⟨.whitespace, [' '], 3⟩] ⟨.text, ['b'], 4⟩ := by
  have h : read (Replay.ofList [⟨.text, ['a'], 0⟩, ⟨.comparator, [':'], 1⟩, ⟨.text, ['1'], 2⟩,
        ⟨.whitespace, [' '], 3⟩, ⟨.text, ['b'], 4⟩, ⟨.comparator, [':'], 5⟩]) =
      (.error (.semantic (.unexpected .text) (some 4)),
        ⟨[⟨.text, ['a'], 0⟩, ⟨.comparator, [':'], 1⟩, ⟨.text, ['1'], 2⟩,
          ⟨.whitespace, [' '], 3⟩, ⟨.text, ['b'], 4⟩, ⟨.comparator, [':'], 5⟩],
          [⟨.comparator, [':'], 5⟩], some ⟨.text, ['b'], 4⟩⟩) := by rfl
  refine ⟨h, by decide, ?_⟩
  obtain ⟨before, t, hts, hcur, -, hb⟩ := breaks_or_incomplete_of_read h (by decide)
  obtain rfl := Option.some.inj hcur
  have hbefore : [⟨.text, ['a'], 0⟩, ⟨.comparator, [':'], 1⟩, ⟨.text, ['1'], 2⟩,
      ⟨.whitespace, [' '], 3⟩] = before := List.append_cancel_right hts
  rwa [hbefore]

end Parser

end FieldQuery
