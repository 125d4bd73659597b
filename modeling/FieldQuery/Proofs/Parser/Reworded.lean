import FieldQuery.Proofs.Parser.Ahead
set_option autoImplicit false

namespace FieldQuery

def Except.bimap {ε ε' α α' : Type} (e : ε → ε') (f : α → α') : Except ε α → Except ε' α'
  | .error x => .error (e x)
  | .ok a => .ok (f a)

theorem Except.bimap_bind {ε ε' α α' β β' : Type} {e : ε → ε'} {f : α → α'} {h : β → β'}
    {x : Except ε α} {k : α → Except ε β} {k' : α' → Except ε' β'}
    (hk : ∀ a, k' (f a) = Except.bimap e h (k a)) :
    Except.bimap e f x >>= k' = Except.bimap e h (x >>= k) := by
  cases x with
  | error x => rfl
  | ok a => exact hk a

def Token.reworded (f : Text → Text) (g : Nat → Nat) (t : Token) : Token :=
  ⟨t.kind, if t.kind = .text then f t.text else t.text, g t.column⟩

def QueryError.moved (g : Nat → Nat) : QueryError → QueryError
  | .recognition text offset => .recognition text (g offset)
  | .semantic fault column => .semantic fault (column.map g)

section Token

variable (f : Text → Text) (g : Nat → Nat) {t : Token}

@[simp] theorem Token.kind_reworded (t : Token) : (t.reworded f g).kind = t.kind := rfl

theorem Token.text_reworded (h : t.kind = .text) : (t.reworded f g).text = f t.text := if_pos h

theorem Token.text_reworded_of_ne (h : t.kind ≠ .text) : (t.reworded f g).text = t.text := if_neg h

end Token

namespace Node

variable (f : Text → Text)

mutual

def reworded : Node → Node
  | .comparison key value => .comparison (f key) (f value)
  | .logical op children => .logical op (rewordedIn children)
  | .negation child => .negation child.reworded

def rewordedIn : List Node → List Node
  | [] => []
  | node :: nodes => node.reworded :: rewordedIn nodes

end

theorem rewordedIn_append (front back : List Node) :
    rewordedIn f (front ++ back) = rewordedIn f front ++ rewordedIn f back := by
  induction front with
  | nil => rfl
  | cons node front ih => simp [rewordedIn, ih]

@[simp] theorem rewordedIn_eq_nil_iff {nodes : List Node} :
    rewordedIn f nodes = [] ↔ nodes = [] := by
  cases nodes <;> simp [rewordedIn]

mutual

theorem reworded_id : (node : Node) → node.reworded id = node
  | .comparison .. => rfl
  | .logical _ children => by rw [reworded, rewordedIn_id children]
  | .negation child => by rw [reworded, reworded_id child]

theorem rewordedIn_id : (nodes : List Node) → rewordedIn id nodes = nodes
  | [] => rfl
  | node :: nodes => by rw [rewordedIn, reworded_id node, rewordedIn_id nodes]

end

end Node

namespace Parser

variable (f : Text → Text) (g : Nat → Nat)

namespace Group

def reworded (group : Group) : Group := { group with children := Node.rewordedIn f group.children }

theorem reworded_push (group : Group) (node : Node) (height : Nat) :
    (group.push node height).reworded f = (group.reworded f).push (node.reworded f) height := by
  simp [reworded, push, Node.rewordedIn_append, Node.rewordedIn]

@[simp] theorem op_reworded (group : Group) : (group.reworded f).op = group.op := rfl

@[simp] theorem nodeHeight_reworded (group : Group) :
    (group.reworded f).nodeHeight = group.nodeHeight := by
  -- Proved by a tactic, so that rewriting a bound on the height rewrites its decision as well.
  rfl

@[simp] theorem children_reworded_eq_nil_iff (group : Group) :
    (group.reworded f).children = [] ↔ group.children = [] :=
  Node.rewordedIn_eq_nil_iff f

theorem toNode_reworded (group : Group) : (group.reworded f).toNode = group.toNode.reworded f := by
  cases hn : group.negated <;> simp [toNode, reworded, hn, Node.reworded]

end Group

def Awaited.reworded : Awaited → Awaited
  | .comparator key => .comparator (f key)
  | .value key => .value (f key)

theorem Awaited.kind_reworded (awaited : Awaited) : (awaited.reworded f).kind = awaited.kind := by
  cases awaited <;> rfl

namespace State

def reworded (s : State) : State :=
  { s with
    top := s.top.reworded f, below := s.below.map (.reworded f),
    awaited := s.awaited.map (.reworded f) }

@[simp] theorem top_reworded (s : State) : (s.reworded f).top = s.top.reworded f := rfl

theorem below_reworded (s : State) : (s.reworded f).below = s.below.map (.reworded f) := rfl

theorem awaited_reworded (s : State) : (s.reworded f).awaited = s.awaited.map (.reworded f) := rfl

abbrev rewordedResult : Except QueryError State → Except QueryError State :=
  Except.bimap (.moved g) (reworded f)

theorem checkAdjacency_reworded (s : State) (t : Token) :
    (s.reworded f).checkAdjacency (t.reworded f g) =
      Except.bimap (.moved g) id (s.checkAdjacency t) := by
  simp only [checkAdjacency, Token.kind_reworded, reworded,
    apply_ite (Except.bimap (QueryError.moved g) id)]
  rfl

theorem openGroup_reworded (s : State) (t : Token) :
    (s.reworded f).openGroup (t.reworded f g) = rewordedResult f g (s.openGroup t) := by
  have hd : (s.reworded f).depth = s.depth := List.length_map _
  unfold openGroup
  rw [hd]
  split <;> rfl

theorem closeGroup_reworded (s : State) (t : Token) :
    (s.reworded f).closeGroup (t.reworded f g) = rewordedResult f g (s.closeGroup t) := by
  unfold closeGroup
  rw [below_reworded]
  cases s.below with
  | nil => rfl
  | cons outer below =>
    simp only [List.map_cons, top_reworded, Group.children_reworded_eq_nil_iff,
      Group.nodeHeight_reworded]
    split
    · rfl
    · split
      · rfl
      · simp only [rewordedResult, Except.bimap, reworded, Group.toNode_reworded,
          Group.reworded_push]

theorem logicalOperator_reworded (s : State) {t : Token} (ht : t.kind ≠ .text) :
    (s.reworded f).logicalOperator (t.reworded f g) = rewordedResult f g (s.logicalOperator t) := by
  unfold logicalOperator
  rw [Token.text_reworded_of_ne f g ht]
  cases Op.ofText? t.text with
  | none => rfl
  | some op =>
    simp only [top_reworded, Group.children_reworded_eq_nil_iff, Group.op_reworded,
      Group.nodeHeight_reworded]
    split
    · rfl
    · cases s.top.op with
      | none => rfl
      | some old =>
        simp only
        split
        · rfl
        · split <;> rfl

theorem comparison_reworded (s : State) (key value : Text) :
    (s.reworded f).comparison (f key) (f value) = (s.comparison key value).reworded f := by
  have hn : (s.reworded f).negateNext = s.negateNext := rfl
  unfold comparison
  rw [hn]
  cases s.negateNext <;> simp [reworded, Group.reworded_push, Node.reworded]

theorem supply_reworded (s : State) (awaited : Awaited) (t : Token) :
    (s.reworded f).supply (awaited.reworded f) (t.reworded f g) =
      rewordedResult f g (s.supply awaited t) := by
  have hk : (awaited.reworded f).kind = awaited.kind := Awaited.kind_reworded f awaited
  unfold supply
  by_cases h : t.kind = awaited.kind
  · have h' : (t.reworded f g).kind = (awaited.reworded f).kind := h.trans hk.symm
    rw [if_pos h, if_pos h']
    cases awaited with
    | comparator key => rfl
    | value key =>
      simp only [Awaited.reworded]
      rw [Token.text_reworded f g h, comparison_reworded]
      rfl
  · have h' : (t.reworded f g).kind ≠ (awaited.reworded f).kind := fun he => h (he.trans hk)
    rw [if_neg h, if_neg h', hk]
    rfl

theorem dispatch_reworded (s : State) (t : Token) :
    (s.reworded f).dispatch (t.reworded f g) = rewordedResult f g (s.dispatch t) := by
  unfold dispatch
  rw [checkAdjacency_reworded]
  refine Except.bimap_bind fun _ => ?_
  rw [Token.kind_reworded]
  cases ht : t.kind with
  | openGroup => exact openGroup_reworded f g { s with
      required := [], forbidden := [], last := some .openGroup } t
  | closeGroup => exact closeGroup_reworded f g { s with
      required := [], forbidden := [], last := some .closeGroup } t
  | logicalOperator => exact logicalOperator_reworded f g { s with
      required := [], forbidden := [], last := some .logicalOperator } (by simp [ht])
  | text =>
    rw [Token.text_reworded f g ht]
    rfl
  | whitespace => rfl
  | negator => rfl
  | comparator => rfl

theorem step_reworded (s : State) (t : Token) :
    (s.reworded f).step (t.reworded f g) = rewordedResult f g (s.step t) := by
  unfold step
  rw [Token.kind_reworded]
  by_cases hk : t.kind = .whitespace
  · rw [if_pos hk, if_pos hk]
    rfl
  · rw [if_neg hk, if_neg hk, awaited_reworded]
    cases s.awaited with
    | none => exact dispatch_reworded f g s t
    | some awaited => exact supply_reworded f g s awaited t

theorem run_reworded (s : State) (ts : List Token) :
    (s.reworded f).run (ts.map (.reworded f g)) = rewordedResult f g (s.run ts) := by
  induction ts generalizing s with
  | nil => rfl
  | cons t ts ih =>
    rw [List.map_cons, run_cons, run_cons, step_reworded]
    exact Except.bimap_bind ih

theorem finish_reworded (s : State) :
    (s.reworded f).finish = Except.bimap (.moved g) (Node.reworded f) s.finish := by
  unfold finish
  rw [awaited_reworded]
  cases s.awaited with
  | some awaited => cases awaited <;> rfl
  | none =>
    simp only [Option.map_none, top_reworded, below_reworded, List.map_eq_nil_iff,
      Group.children_reworded_eq_nil_iff, Group.nodeHeight_reworded, Group.toNode_reworded, ne_eq,
      apply_ite (Except.bimap (QueryError.moved g) (Node.reworded f))]
    rfl

theorem conclude_reworded (s : State) (ts : List Token) :
    (s.reworded f).conclude (ts.map (.reworded f g)) none =
      Except.bimap (.moved g) (Node.reworded f) (s.conclude ts none) := by
  rw [conclude, conclude, run_reworded]
  exact Except.bimap_bind (finish_reworded f g)

end State

end Parser

/-- No text of a text token acts as syntax, whatever it is: a keyword, a parenthesis or nothing. -/
theorem parseTokens_reworded (f : Text → Text) (g : Nat → Nat) (ts : List Token) :
    ((∃ node, parseTokens (ts.map (.reworded f g)) = .ok node) ↔
        ∃ node, parseTokens ts = .ok node) ∧
      (∀ node, parseTokens ts = .ok node →
        parseTokens (ts.map (.reworded f g)) = .ok (node.reworded f)) ∧
      ∀ e, parseTokens ts = .error e → ∃ fault column, e = .semantic fault column ∧
        parseTokens (ts.map (.reworded f g)) = .error (.semantic fault (column.map g)) := by
  have hr : parseTokens (ts.map (.reworded f g)) =
      Except.bimap (.moved g) (Node.reworded f) (parseTokens ts) := by
    rw [parseTokens_conclude, parseTokens_conclude]
    exact Parser.State.conclude_reworded f g .initial ts
  rw [hr]
  refine ⟨?_, fun node h => by rw [h]; rfl, fun e h => ?_⟩
  · cases parseTokens ts with
    | error e => exact ⟨nofun, nofun⟩
    | ok node => exact ⟨fun _ => ⟨node, rfl⟩, fun _ => ⟨_, rfl⟩⟩
  · obtain ⟨fault, column, rfl⟩ :=
      Parser.State.conclude_ended_error ((parseTokens_conclude ts).symm.trans h)
    exact ⟨fault, column, rfl, by rw [h]; rfl⟩

theorem parseTokens_reworded_parenthesis :
    (parseTokens [⟨.text, ['a'], 0⟩, ⟨.comparator, [':'], 1⟩, ⟨.text, "OR".toList, 2⟩] =
        .ok (.logical .and [.comparison ['a'] "OR".toList]) ∧
      parseTokens [⟨.text, [')'], 0⟩, ⟨.comparator, [':'], 3⟩, ⟨.text, [')'], 6⟩] =
        .ok (.logical .and [.comparison [')'] [')']])) ∧
    parseTokens [⟨.text, ['a'], 0⟩, ⟨.comparator, [':'], 1⟩, ⟨.text, "OR".toList, 2⟩,
        ⟨.text, ['b'], 4⟩] = .error (.semantic (.unexpected .text) (some 4)) ∧
      parseTokens [⟨.text, [')'], 0⟩, ⟨.comparator, [':'], 3⟩, ⟨.text, [')'], 6⟩,
        ⟨.text, [')'], 12⟩] = .error (.semantic (.unexpected .text) (some 12)) := by
  have hok : parseTokens [⟨.text, ['a'], 0⟩, ⟨.comparator, [':'], 1⟩, ⟨.text, "OR".toList, 2⟩] =
      .ok (.logical .and [.comparison ['a'] "OR".toList]) := by rfl
  have herror : parseTokens [⟨.text, ['a'], 0⟩, ⟨.comparator, [':'], 1⟩, ⟨.text, "OR".toList, 2⟩,
      ⟨.text, ['b'], 4⟩] = .error (.semantic (.unexpected .text) (some 4)) := by rfl
  have hnode := (parseTokens_reworded (fun _ => [')']) (3 * ·) _).2.1 _ hok
  obtain ⟨fault, column, he, hmoved⟩ :=
    (parseTokens_reworded (fun _ => [')']) (3 * ·) _).2.2 _ herror
  cases he
  exact ⟨⟨hok, hnode⟩, herror, hmoved⟩

end FieldQuery
