import FieldQuery.Proofs.Parser.Complete
set_option autoImplicit false

/-! The parser reads nothing but phrases. What it has read of each open group is a draft: nothing,
a phrase, or a phrase and the operator behind it. The drafts of all open groups, and what was read
of the operand at hand, fix the state, and every accepted token goes on from one such state to
another. -/

namespace FieldQuery

open FieldQuery.Parser

inductive Draft where
  | empty
  | phrase (p : Phrase)
  | operator (p : Phrase) (op : Op)

namespace Draft

def reading : Draft → Reading
  | .empty => .empty
  | .phrase p => p.reading
  | .operator p op => p.reading.combine op

def append : Draft → Operand → Phrase
  | .empty, x => .single x
  | .phrase p, x => .join p none x
  | .operator p op, x => .join p (some op) x

/-- Whether an operand that starts with this kind can come next. -/
def Takes : Draft → Kind → Prop
  | .phrase p, k => k ≠ p.last.barred
  | .empty, _ => True
  | .operator .., _ => True

inductive Spells : Draft → List Token → Prop where
  | empty : Spells .empty []
  | phrase {p : Phrase} {ts : List Token} : p.Spells ts → Spells (.phrase p) ts
  | operator {p : Phrase} {ts : List Token} {t : Token} {op : Op} : p.Spells ts →
      t.kind = .logicalOperator → Op.ofText? t.text = some op →
      Spells (.operator p op) (ts ++ [t])

theorem reading_append (d : Draft) (x : Operand) :
    (d.append x).reading = d.reading.push x.node := by
  cases d <;> simp [append, reading, Phrase.reading]

theorem last_append (d : Draft) (x : Operand) : (d.append x).last = x := by
  cases d <;> rfl

theorem Spells.append {d : Draft} {x : Operand} {ts us : List Token} (h : d.Spells ts)
    (hx : x.Spells us) (ht : d.Takes x.firstKind) : (d.append x).Spells (ts ++ us) := by
  cases h with
  | empty => exact .single hx
  | phrase hp => exact .juxtaposed hp hx ht
  | operator hp hk hop =>
    rw [List.append_assoc]
    exact .joined hp hk hop hx

def forbidden (d : Draft) (below : List Group) : List Kind :=
  match d with
  | .empty => if below = [] then [] else afterOpenGroup
  | .phrase p => [p.last.barred]
  | .operator .. => afterOperator

def last (d : Draft) (below : List Group) : Option Kind :=
  match d with
  | .empty => if below = [] then none else some .openGroup
  | .phrase p => some p.last.lastKind
  | .operator .. => some .logicalOperator

theorem takes_of_not_mem {d : Draft} {below : List Group} {k : Kind}
    (h : k ∉ d.forbidden below) : d.Takes k := by
  cases d with
  | phrase p => simpa [forbidden, Takes] using h
  | _ => trivial

theorem takes_negator (d : Draft) : d.Takes .negator := by
  cases d with
  | phrase p => exact p.last.barred_ne_negator.symm
  | _ => trivial

theorem eq_phrase {d : Draft} {below : List Group} {k : Kind} (hc : d.reading.children ≠ [])
    (hk : k ∈ afterOperator) (h : k ∉ d.forbidden below) : ∃ p, d = .phrase p := by
  cases d with
  | empty => exact absurd rfl hc
  | phrase p => exact ⟨p, rfl⟩
  | operator p op => exact absurd hk h

end Draft

namespace Parser

/-- The groups around the innermost one, whether that one is negated, and the tokens up to the
parenthesis that opened it. -/
inductive Encloses : List Group → Bool → List Token → Prop where
  | root : Encloses [] false []
  | inner {below : List Group} {negated within : Bool} {d : Draft} {ts us ns : List Token}
      {opening : Token} : Encloses below negated ts → d.Spells us → Negators within ns →
      d.Takes (if within then .negator else .openGroup) → opening.kind = .openGroup →
      Encloses (d.reading.group negated :: below) within (ts ++ us ++ ns ++ [opening])

def State.inside (negated : Bool) (top : Group) (below : List Group) (awaited : Awaited) : State :=
  ⟨top, below, [], [], negated, some .text, some awaited⟩

/-- What the significant tokens read so far say about the state. -/
inductive Reads : List Token → State → Prop where
  | between {below : List Group} {negated : Bool} {d : Draft} {ts us : List Token} :
      Encloses below negated ts → d.Spells us →
      Reads (ts ++ us)
        (.between (d.reading.group negated) below (d.forbidden below) (d.last below))
  | negator {below : List Group} {negated : Bool} {d : Draft} {ts us : List Token} {t : Token} :
      Encloses below negated ts → d.Spells us → t.kind = .negator →
      Reads (ts ++ us ++ [t])
        (.ready true (d.reading.group negated) below (d.forbidden below) (d.last below))
  | key {below : List Group} {negated within : Bool} {d : Draft} {ts us ns : List Token}
      {key : Token} : Encloses below negated ts → d.Spells us → Negators within ns →
      d.Takes (if within then .negator else .text) → key.kind = .text →
      Reads (ts ++ us ++ (ns ++ [key]))
        (.inside within (d.reading.group negated) below (.comparator key.text))
  | comparator {below : List Group} {negated within : Bool} {d : Draft} {ts us ns : List Token}
      {key comparator : Token} : Encloses below negated ts → d.Spells us → Negators within ns →
      d.Takes (if within then .negator else .text) → key.kind = .text →
      comparator.kind = .comparator →
      Reads (ts ++ us ++ (ns ++ [key, comparator]))
        (.inside within (d.reading.group negated) below (.value key.text))

theorem Reads.initial : Reads [] .initial := by
  exact Reads.between .root .empty

theorem Reads.operand {below : List Group} {negated : Bool} {d : Draft} {x : Operand}
    {ts us vs : List Token} (he : Encloses below negated ts) (hd : d.Spells us)
    (hx : x.Spells vs) (ht : d.Takes x.firstKind) :
    Reads (ts ++ us ++ vs) (.between ((d.reading.group negated).push x.node x.node.height) below
      [x.barred] (some x.lastKind)) := by
  have hr := Reads.between he (.phrase (hd.append hx ht))
  simpa [Draft.reading, Draft.reading_append, Draft.forbidden, Draft.last, Draft.last_append]
    using hr

theorem Reads.of_eq {ts us : List Token} {s : State} (h : Reads us s) (he : ts = us) :
    Reads ts s := he ▸ h

theorem Reads.close {outer : Group} {below : List Group} {negated : Bool} {p : Phrase}
    {ts us : List Token} {closing : Token} (he : Encloses (outer :: below) negated ts)
    (hp : p.Spells us) (hc : closing.kind = .closeGroup) :
    Reads (ts ++ us ++ [closing]) (.between (outer.push (negateIf negated p.reading.node)
      (negateIf negated p.reading.node).height) below [.openGroup] (some .closeGroup)) := by
  cases he with
  | inner he hd hn ht ho =>
    have hr := Reads.operand he hd (.group hn ho hp hc) ht
    exact hr.of_eq (by simp)

theorem Reads.after_between {below : List Group} {negated : Bool} {d : Draft} {ts us : List Token}
    {t : Token} {s : State} (he : Encloses below negated ts) (hd : d.Spells us)
    (hk : t.kind ≠ .whitespace) (h : (State.between (d.reading.group negated) below
      (d.forbidden below) (d.last below)).Step t s) : Reads (ts ++ us ++ [t]) s := by
  cases h with
  | whitespace hw => exact absurd hw hk
  | comparator _ ha => cases ha
  | value _ ha => cases ha
  | key ht _ had => exact Reads.key he hd .none (Draft.takes_of_not_mem had.2) ht
  | openGroup ht _ had _ =>
    have hi := Encloses.inner he hd .none (Draft.takes_of_not_mem had.2) ht
    exact (Reads.between hi .empty).of_eq (by simp)
  | @closeGroup outer inner ht _ had hb hc _ =>
    obtain rfl : below = outer :: inner := hb
    obtain ⟨p, rfl⟩ := Draft.eq_phrase hc (by decide) had.2
    cases hd with
    | phrase hp =>
      have hr := Reads.close he hp ht
      rw [← Reading.nodeHeight_group] at hr
      exact hr
  | operator ht _ had hop hc _ =>
    obtain ⟨p, rfl⟩ := Draft.eq_phrase hc (by decide) had.2
    cases hd with
    | phrase hp =>
      have hr := Reads.between he (.operator hp ht hop)
      rw [Draft.reading, Reading.group_combine] at hr
      exact hr.of_eq (by simp)
  | negator ht => exact Reads.negator he hd ht

theorem Reads.after_negator {below : List Group} {negated : Bool} {d : Draft}
    {ts us : List Token} {n t : Token} {s : State} (he : Encloses below negated ts)
    (hd : d.Spells us) (hn : n.kind = .negator) (hk : t.kind ≠ .whitespace)
    (h : (State.ready true (d.reading.group negated) below (d.forbidden below)
      (d.last below)).Step t s) : Reads (ts ++ us ++ [n] ++ [t]) s := by
  have hreq : ∀ k, (State.ready true (d.reading.group negated) below (d.forbidden below)
      (d.last below)).Admits k → k ∈ negatable := by
    intro k had
    exact had.1.resolve_left (List.cons_ne_nil _ _)
  cases h with
  | whitespace hw => exact absurd hw hk
  | comparator _ ha => cases ha
  | value _ ha => cases ha
  | key ht _ had => exact (Reads.key he hd (.one hn) d.takes_negator ht).of_eq (by simp)
  | openGroup ht _ had _ =>
    have hi := Encloses.inner he hd (.one hn) d.takes_negator ht
    exact (Reads.between hi .empty).of_eq (by simp)
  | closeGroup _ _ had => exact absurd (hreq _ had) (by decide)
  | operator _ _ had => exact absurd (hreq _ had) (by decide)
  | negator _ _ had => exact absurd (hreq _ had) (by decide)

theorem Reads.step {ts : List Token} {s s' : State} {t : Token} (h : Reads ts s)
    (hk : t.kind ≠ .whitespace) (hs : s.Step t s') : Reads (ts ++ [t]) s' := by
  cases h with
  | between he hd => exact Reads.after_between he hd hk hs
  | negator he hd hn => exact Reads.after_negator he hd hn hk hs
  | key he hd hn ht hkey =>
    obtain ⟨hc, rfl⟩ := hs.of_awaited hk rfl
    exact (Reads.comparator he hd hn ht hkey hc).of_eq (by simp)
  | @comparator below negated within d ts us ns key comparator he hd hn ht hkey hc =>
    obtain ⟨hv, rfl⟩ := hs.of_awaited hk rfl
    have hr := Reads.operand he hd (.comparison hn hkey hc hv) ht
    cases within
    · exact hr.of_eq (by simp)
    · exact hr.of_eq (by simp)

theorem Reads.run {ts us : List Token} {s s' : State} (h : Reads ts s)
    (hr : s.run us = .ok s') : Reads (ts ++ significant us) s' := by
  induction us generalizing ts s with
  | nil =>
    obtain rfl := Except.ok.inj hr
    simpa using h
  | cons t us ih =>
    rw [State.run_cons] at hr
    cases hs : s.step t with
    | error e => simp [hs, bind, Except.bind] at hr
    | ok next =>
      rw [hs] at hr
      by_cases hk : t.kind = .whitespace
      · rw [State.step_whitespace s hk] at hs
        obtain rfl := Except.ok.inj hs
        rw [significant_cons_of_eq hk]
        exact ih h hr
      · have hn := h.step hk (State.step_eq_ok_iff.1 hs)
        rw [significant_cons_of_ne hk, List.append_cons]
        exact ih hn hr

theorem Reads.finish {ts : List Token} {s : State} {node : Node} (h : Reads ts s)
    (hf : s.finish = .ok node) :
    ∃ p : Phrase, p.Spells ts ∧ p.node = node ∧ node.height ≤ maxDepth := by
  obtain ⟨ha, hn, hl, hb, hc, hh, rfl⟩ := State.finish_eq_ok_iff.1 hf
  cases h with
  | @between below negated d ts us he hd =>
    cases hb
    cases he
    cases hd with
    | empty => exact absurd rfl hc
    | @phrase p _ hp =>
      have hle : (p.reading.group false).nodeHeight ≤ maxDepth := hh
      rw [Reading.nodeHeight_group] at hle
      exact ⟨p, hp, rfl, hle⟩
    | operator => exact absurd rfl hl
  | negator => cases hn
  | key => cases ha
  | comparator => cases ha

theorem State.leads_phrase {p : Phrase} {ts : List Token} (h : p.Spells (significant ts)) :
    State.initial.Leads ts
      (between (p.reading.group false) [] [p.last.barred] (some p.last.lastKind))
      (maxDepth < p.node.height) := by
  have hl : State.initial.Leads (significant ts) _ _ := p.leads h (by simp)
  rw [Leads, run_significant] at hl
  exact Leads.imp (by simp [Phrase.node, negateIf]) hl

theorem State.finish_phrase (p : Phrase) :
    (between (p.reading.group false) [] [p.last.barred] (some p.last.lastKind)).finish =
      if maxDepth < p.node.height then .error (.semantic .tooDeep none) else .ok p.node := by
  have hh : (p.reading.group false).nodeHeight = p.node.height := Reading.nodeHeight_group _ _
  have hl : p.last.lastKind ≠ .logicalOperator := by
    cases p.last <;> simp [Operand.lastKind]
  have hc : (p.reading.group false).children ≠ [] := p.children_ne_nil
  simp [finish, between, hl, hc, hh]
  rfl

theorem conclude_phrase {p : Phrase} {ts : List Token} (h : p.Spells (significant ts)) :
    State.initial.conclude ts none = .ok p.node ∨
      (∃ column, State.initial.conclude ts none = .error (.semantic .tooDeep column)) ∧
        maxDepth < p.node.height := by
  rcases State.leads_phrase h with hr | ⟨⟨column, hr⟩, hh⟩
  · rw [State.conclude_of_run hr, State.finish_phrase]
    by_cases hh : maxDepth < p.node.height
    · exact .inr ⟨⟨none, if_pos hh⟩, hh⟩
    · exact .inl (if_neg hh)
  · exact .inr ⟨⟨column, State.conclude_of_error hr none⟩, hh⟩

theorem conclude_eq_ok_iff {ts : List Token} {stop : Option QueryError} {node : Node} :
    State.initial.conclude ts stop = .ok node ↔ stop = none ∧
      ∃ p : Phrase, p.Spells (significant ts) ∧ p.node = node ∧ node.height ≤ maxDepth := by
  constructor
  · intro h
    unfold State.conclude at h
    cases hr : State.initial.run ts with
    | error e => simp [hr, bind, Except.bind] at h
    | ok s =>
      rw [hr] at h
      cases stop with
      | some e => simp [bind, Except.bind] at h
      | none => exact ⟨rfl, (Reads.initial.run hr).finish h⟩
  · rintro ⟨rfl, p, hp, rfl, hh⟩
    exact (conclude_phrase hp).resolve_right fun ht => absurd ht.2 (by omega)

end Parser

/-- The parser accepts the phrases whose tree is not too tall, and gives that tree. -/
theorem parseTokens_eq_ok_iff (ts : List Token) (node : Node) :
    parseTokens ts = .ok node ↔
      ∃ p : Phrase, p.Spells (significant ts) ∧ p.node = node ∧ node.height ≤ maxDepth := by
  rw [parseTokens_conclude, conclude_eq_ok_iff]
  simp

end FieldQuery
