import FieldQuery.Proofs.Parser.Sound
import FieldQuery.Proofs.Parser.Stop
set_option autoImplicit false

/-! The limit on the height of trees. The recorded heights are those of the children, no check lets
a tree through that is too tall, and a query is refused for its height only if every way to go on
with it has a tree that is too tall. -/

namespace FieldQuery.Parser

namespace Group

/-- The recorded height is that of the tallest child, and no child is too tall. -/
structure Measured (g : Group) : Prop where
  height_eq : g.height = Node.heights g.children
  child_le : ∀ child ∈ g.children, child.height ≤ maxDepth

variable {g : Group}

theorem Measured.opened (negated : Bool) : (Group.opened negated).Measured :=
  ⟨rfl, by simp [Group.opened]⟩

theorem Measured.push {node : Node} {height : Nat} (hg : g.Measured) (hn : node.height = height)
    (hh : height ≤ maxDepth) : (g.push node height).Measured where
  height_eq := by simp [Group.push, hg.height_eq, Node.heights, hn]
  child_le := by
    intro child hc
    rcases List.mem_append.1 hc with hc | hc
    · exact hg.child_le child hc
    · obtain rfl := List.mem_singleton.1 hc
      omega

theorem Measured.height_toNode (hg : g.Measured) : g.toNode.height = g.nodeHeight := by
  cases hn : g.negated <;> simp [toNode, nodeHeight, hn, hg.height_eq, Node.height]

theorem Measured.combine {op : Op} (hg : g.Measured) (hc : g.Combines op) :
    (g.combine op).Measured := by
  unfold Group.combine
  cases hop : g.op with
  | none => exact ⟨hg.height_eq, hg.child_le⟩
  | some old =>
    by_cases ho : old = op
    · simpa [ho] using hg
    · have hle := hc old hop ho
      simp only [nodeHeight] at hle
      simp only [ho, if_false]
      refine ⟨by simp [Node.heights, Node.height, hg.height_eq], fun child hm => ?_⟩
      obtain rfl := List.mem_singleton.1 hm
      rw [Node.height, ← hg.height_eq]
      omega

end Group

namespace State

/-- Besides the groups that are open above it there is room for the root and for a leaf. -/
structure Measured (s : State) : Prop where
  groups : ∀ g ∈ s.top :: s.below, g.Measured
  depth_le : s.depth ≤ maxDepth - 2

theorem Measured.initial : State.initial.Measured := by
  refine ⟨fun g hg => ?_, Nat.zero_le _⟩
  obtain rfl := List.mem_singleton.1 hg
  exact .opened false

theorem Measured.of_top {s s' : State} (h : s.Measured) (ht : s'.top.Measured)
    (hb : s'.below = s.below) : s'.Measured := by
  refine ⟨List.forall_mem_cons.2 ⟨ht, ?_⟩, ?_⟩
  · rw [hb]
    exact (List.forall_mem_cons.1 h.groups).2
  · rw [depth, hb]
    exact h.depth_le

theorem Measured.comparison {s : State} (h : s.Measured) (key value : Text) :
    (s.comparison key value).Measured := by
  have htop := (List.forall_mem_cons.1 h.groups).1
  refine h.of_top ?_ rfl
  unfold State.comparison
  cases s.negateNext with
  | false => exact htop.push rfl (by decide)
  | true => exact htop.push rfl (by decide)

theorem Measured.step {s s' : State} {t : Token} (h : s.Measured) (hs : s.Step t s') :
    s'.Measured := by
  obtain ⟨htop, hbelow⟩ := List.forall_mem_cons.1 h.groups
  cases hs with
  | whitespace => exact h
  | comparator => exact h.of_top htop rfl
  | value => exact h.comparison _ _
  | key => exact h.of_top htop rfl
  | openGroup _ _ _ hd =>
    refine ⟨List.forall_mem_cons.2 ⟨.opened _, h.groups⟩, ?_⟩
    simp only [depth, List.length_cons] at hd ⊢
    omega
  | closeGroup _ _ _ hb _ hh =>
    rw [hb] at hbelow
    obtain ⟨houter, hbelow⟩ := List.forall_mem_cons.1 hbelow
    have hd := h.depth_le
    refine ⟨List.forall_mem_cons.2 ⟨houter.push htop.height_toNode hh, hbelow⟩, ?_⟩
    simp only [depth, hb, List.length_cons] at hd ⊢
    omega
  | operator _ _ _ _ _ hc => exact h.of_top (htop.combine hc) rfl
  | negator => exact h.of_top htop rfl

theorem Measured.run {s s' : State} {ts : List Token} (h : s.Measured) (hr : s.run ts = .ok s') :
    s'.Measured :=
  run_preserves (fun _ _ _ hm hs => hm.step hs) h hr

end State

theorem too_tall_of_conclude {ts : List Token} {e : QueryError} {p : Phrase}
    (h : State.initial.conclude ts none = .error e) (hp : p.Spells (significant ts)) :
    maxDepth < p.node.height := by
  rcases conclude_phrase hp with hc | ⟨-, hh⟩
  · rw [h] at hc
    cases hc
  · exact hh

/-- While tokens are read all heights are right and within the limit, and when the limit refuses
them, then whatever follows could not have kept to it. -/
theorem depth_limit_exact (ts : List Token) :
    (∀ before s, before <+: ts → State.initial.run before = .ok s → s.Measured) ∧
      ∀ column cursor,
        read (Replay.ofList ts) = (.error (.semantic .tooDeep column), cursor) →
        match column with
        | some _ => ∃ consumed, ts = consumed ++ cursor.rest ∧
            ∀ more (p : Phrase), p.Spells (significant (consumed ++ more)) →
              maxDepth < p.node.height
        | none => cursor.rest = [] ∧
            ∀ p : Phrase, p.Spells (significant ts) → maxDepth < p.node.height := by
  refine ⟨fun before s _ hr => State.Measured.initial.run hr, fun column cursor h => ?_⟩
  cases column with
  | some column =>
    obtain ⟨before, t, s, hts, -, -, hr, hs⟩ := refused_of_read h
    refine ⟨before ++ [t], by simpa using hts, fun more p hp => ?_⟩
    have hrun := State.run_of_refused hr hs more
    exact too_tall_of_conclude (State.conclude_of_error hrun none) hp
  | none =>
    obtain ⟨hrest, s, hr, hf⟩ := ended_of_read h
    have hc := (State.conclude_of_run hr).trans hf
    exact ⟨hrest, fun p hp => too_tall_of_conclude hc hp⟩

set_option maxRecDepth 20000 in
theorem depth_limit_exact_nested :
    (∃ s, State.initial.run (List.replicate 254 ⟨.openGroup, ['('], 0⟩) = .ok s ∧
      s.depth = maxDepth - 2 ∧ s.Measured) ∧
    (read (Replay.ofList (List.replicate 255 ⟨.openGroup, ['('], 0⟩))).1 =
      .error (.semantic .tooDeep (some 0)) ∧
    ∀ more (p : Phrase),
      p.Spells (significant (List.replicate 255 ⟨.openGroup, ['('], 0⟩ ++ more)) →
      maxDepth < p.node.height := by
  obtain ⟨hmeasured, htall⟩ := depth_limit_exact (List.replicate 255 ⟨.openGroup, ['('], 0⟩)
  have hrun : State.initial.run (List.replicate 254 ⟨.openGroup, ['('], 0⟩) =
      .ok (.between (.opened false) (List.replicate 254 (.opened false)) afterOpenGroup
        (some .openGroup)) := by rfl
  have hread : read (Replay.ofList (List.replicate 255 ⟨.openGroup, ['('], 0⟩)) =
      (.error (.semantic .tooDeep (some 0)),
        ⟨List.replicate 255 ⟨.openGroup, ['('], 0⟩, [], some ⟨.openGroup, ['('], 0⟩⟩) := by rfl
  have hprefix : List.replicate 254 (⟨.openGroup, ['('], 0⟩ : Token) <+:
      List.replicate 255 ⟨.openGroup, ['('], 0⟩ := List.prefix_replicate_iff.2 (by simp)
  refine ⟨⟨_, hrun, by rfl, hmeasured _ _ hprefix hrun⟩, by rw [hread], ?_⟩
  obtain ⟨consumed, hc, hp⟩ := htall _ _ hread
  rw [List.append_nil] at hc
  rwa [hc]

end FieldQuery.Parser
