import FieldQuery.Proofs.Grammar.Truth
import FieldQuery.Proofs.Node.Complaint
import FieldQuery.Proofs.Node.Leaves
set_option autoImplicit false

/-! Where the tokens of a query are found again in its tree. A place in a list of tokens is described
by what stands before it: the groups that are open there, and for each of them whether it is negated
and which operator came last in it. From left to right the places give the comparisons, each with
the number of `NOT`s it stands under, and the changes of operator. All of them are in the tree, and
nothing else is. -/

namespace FieldQuery

def comparisonAt? : List Token → Option (Text × Text)
  | key :: comparator :: value :: _ =>
    if key.kind = .text ∧ comparator.kind = .comparator ∧ value.kind = .text then
      some (key.text, value.text)
    else none
  | _ => none

def comparisonsIn : List Token → List (Text × Text)
  | [] => []
  | t :: ts => (comparisonAt? (t :: ts)).toList ++ comparisonsIn ts

structure Enclosure where
  /-- A `NOT` stands directly in front of the parenthesis. -/
  negated : Bool
  /-- The operator that came last in the group itself. -/
  operator : Option Op
  deriving DecidableEq, Repr

structure Place where
  innermost : Enclosure
  around : List Enclosure
  negated : Bool
  deriving DecidableEq, Repr

namespace Place

def start : Place := ⟨⟨false, none⟩, [], false⟩

def after (p : Place) (t : Token) : Place :=
  match t.kind with
  | .openGroup => ⟨⟨p.negated, none⟩, p.innermost :: p.around, false⟩
  | .closeGroup =>
    match p.around with
    | [] => { p with negated := false }
    | outer :: around => ⟨outer, around, false⟩
  | .negator => { p with negated := true }
  | .logicalOperator => ⟨{ p.innermost with operator := Op.ofText? t.text }, p.around, false⟩
  | .text | .comparator => { p with negated := false }
  | .whitespace => p

/-- How many `NOT`s stand directly in front of the place or of a group that is open there. -/
def negations (p : Place) : Nat :=
  (p.innermost :: p.around).countP (·.negated) + p.negated.toNat

/-- The comparisons behind a place, each with the number of `NOT`s it stands under. -/
def comparisons (p : Place) : List Token → List ((Text × Text) × Nat)
  | [] => []
  | t :: ts => ((comparisonAt? (t :: ts)).map (·, p.negations)).toList ++ (p.after t).comparisons ts

/-- The token is an operator, and another one came last in its group. -/
def ChangesOperator (p : Place) (t : Token) : Prop :=
  t.kind = .logicalOperator ∧ p.innermost.operator ≠ none ∧
    p.innermost.operator ≠ Op.ofText? t.text

instance (p : Place) (t : Token) : Decidable (p.ChangesOperator t) :=
  inferInstanceAs (Decidable (_ ∧ _ ∧ _))

def operatorChanges (p : Place) : List Token → Nat
  | [] => 0
  | t :: ts => (if p.ChangesOperator t then 1 else 0) + (p.after t).operatorChanges ts

theorem map_fst_comparisons (p : Place) (ts : List Token) :
    (p.comparisons ts).map Prod.fst = comparisonsIn ts := by
  induction ts generalizing p with
  | nil => rfl
  | cons t ts ih =>
    rw [comparisons, comparisonsIn, List.map_append, ih]
    cases comparisonAt? (t :: ts) <;> rfl

def afterAll (p : Place) (ts : List Token) : Place := ts.foldl after p

theorem afterAll_append (p : Place) (ts us : List Token) :
    p.afterAll (ts ++ us) = (p.afterAll ts).afterAll us :=
  List.foldl_append

theorem operatorChanges_append (p : Place) (ts us : List Token) :
    p.operatorChanges (ts ++ us) = p.operatorChanges ts + (p.afterAll ts).operatorChanges us := by
  induction ts generalizing p with
  | nil => simp [operatorChanges, afterAll]
  | cons t ts ih =>
    rw [List.cons_append, operatorChanges, operatorChanges, ih, afterAll, afterAll, List.foldl_cons]
    omega

theorem operatorChanges_cons_of_ne {t : Token} (h : t.kind ≠ .logicalOperator) (p : Place)
    (ts : List Token) : p.operatorChanges (t :: ts) = (p.after t).operatorChanges ts := by
  rw [operatorChanges, if_neg fun hc => h hc.1, Nat.zero_add]

theorem comparisons_cons_of_next {t : Token} {ts : List Token}
    (h : t.kind = .text → ∀ u ∈ ts.head?, u.kind ≠ .comparator) (p : Place) :
    p.comparisons (t :: ts) = (p.after t).comparisons ts := by
  have hnone : comparisonAt? (t :: ts) = none := by
    unfold comparisonAt?
    split
    · next he =>
      obtain ⟨rfl, rfl⟩ := List.cons.inj he
      exact if_neg fun hk => h hk.1 _ rfl hk.2.1
    · rfl
  rw [comparisons, hnone]
  rfl

theorem comparisons_cons_of_ne {t : Token} (h : t.kind ≠ .text) (p : Place) (ts : List Token) :
    p.comparisons (t :: ts) = (p.after t).comparisons ts :=
  comparisons_cons_of_next (fun ht => absurd ht h) p

def between (negated : Bool) (operator : Option Op) (around : List Enclosure) : Place :=
  ⟨⟨negated, operator⟩, around, false⟩

variable {p : Place} {ts : List Token} {negated : Bool} {ns : List Token}

theorem afterAll_negators (h : Negators negated ns) (hp : p.negated = false) :
    p.afterAll ns = { p with negated := negated } := by
  obtain ⟨innermost, around, _⟩ := p
  obtain rfl := hp
  cases h with
  | none => rfl
  | one ht => simp [afterAll, after, ht]

/-- What is read of a list passes over `NOT`, up to the place behind it. -/
theorem negators_append {α : Type} {read : Place → List Token → α}
    (hread : ∀ (p : Place) (t : Token) (us : List Token), t.kind = .negator →
      read p (t :: us) = read (p.after t) us)
    (h : Negators negated ns) (hp : p.negated = false) (us : List Token) :
    read p (ns ++ us) = read { p with negated := negated } us := by
  have ha := afterAll_negators h hp
  cases h with
  | none => rw [← ha]; rfl
  | one ht =>
    rw [← ha, List.singleton_append, hread p _ us ht]
    rfl

theorem comparisons_negators (h : Negators negated ns) (hp : p.negated = false) (us : List Token) :
    p.comparisons (ns ++ us) = { p with negated := negated }.comparisons us :=
  negators_append (fun p t us ht => comparisons_cons_of_ne (by simp [ht]) p us) h hp us

theorem operatorChanges_negators (h : Negators negated ns) (hp : p.negated = false)
    (us : List Token) :
    p.operatorChanges (ns ++ us) = { p with negated := negated }.operatorChanges us :=
  negators_append (fun p t us ht => operatorChanges_cons_of_ne (by simp [ht]) p us) h hp us

theorem negations_negated (hp : p.negated = false) (negated : Bool) :
    { p with negated := negated }.negations = p.negations + negated.toNat := by
  simp [negations, hp]

theorem after_opening {opening : Token} (ho : opening.kind = .openGroup) (p : Place) :
    p.after opening = between p.negated none (p.innermost :: p.around) := by
  simp [after, ho, between]

theorem after_closing {closing : Token} (hc : closing.kind = .closeGroup) (negated : Bool)
    (operator : Option Op) (outer : Enclosure) (around : List Enclosure) :
    (between negated operator (outer :: around)).after closing = ⟨outer, around, false⟩ := by
  simp [after, hc, between]

theorem after_operator {t : Token} {op : Op} (ht : t.kind = .logicalOperator)
    (hop : Op.ofText? t.text = some op) (negated : Bool) (operator : Option Op)
    (around : List Enclosure) :
    (between negated operator around).after t = between negated (some op) around := by
  simp [after, ht, hop, between]

theorem afterAll_operator {t : Token} {op : Op} (ht : t.kind = .logicalOperator)
    (hop : Op.ofText? t.text = some op) (negated : Bool) (operator : Option Op)
    (around : List Enclosure) :
    (between negated operator around).afterAll [t] = between negated (some op) around :=
  after_operator ht hop negated operator around

theorem operatorChanges_operator {t : Token} {op : Op} (ht : t.kind = .logicalOperator)
    (hop : Op.ofText? t.text = some op) (negated : Bool) (operator : Option Op)
    (around : List Enclosure) : (between negated operator around).operatorChanges [t] =
      if operator ≠ none ∧ operator ≠ some op then 1 else 0 := by
  simp [operatorChanges, ChangesOperator, between, ht, hop]

theorem negations_between (negated : Bool) (operator : Option Op) (around : List Enclosure) :
    (between negated operator around).negations =
      (between negated none around).negations := by
  simp [negations, between, List.countP_cons]

theorem negations_opened (p : Place) :
    (between p.negated none (p.innermost :: p.around)).negations = p.negations := by
  cases hn : p.negated <;> simp [negations, between, List.countP_cons, hn]

end Place

open Place (between)

mutual

theorem Operand.afterAll_eq (x : Operand) {ts : List Token} (h : x.Spells ts) {p : Place}
    (hp : p.negated = false) : p.afterAll ts = p := by
  match x, h with
  | .comparison negated _ _, .comparison hn hk hc hv =>
    rw [Place.afterAll_append, Place.afterAll_negators hn hp]
    obtain ⟨innermost, around, _⟩ := p
    obtain rfl := hp
    simp [Place.afterAll, Place.after, hk, hc, hv]
  | .group negated body, @Operand.Spells.group _ ns ts opening closing _ hn ho hb hc =>
    rw [Place.afterAll_append, Place.afterAll_negators hn hp, Place.afterAll, List.foldl_cons,
      Place.after_opening ho, ← Place.afterAll, Place.afterAll_append, body.afterAll_eq hb,
      Place.afterAll, List.foldl_cons, Place.after_closing hc, List.foldl_nil, ← hp]

theorem Phrase.afterAll_eq (q : Phrase) {ts : List Token} (h : q.Spells ts) {negated : Bool}
    {around : List Enclosure} : (between negated none around).afterAll ts =
      between negated q.reading.op around := by
  match q, h with
  | .single x, .single hx => exact x.afterAll_eq hx rfl
  | .join front none x, .juxtaposed hf hx _ =>
    rw [Place.afterAll_append, front.afterAll_eq hf, x.afterAll_eq hx rfl]
    rfl
  | .join front (some op) x, .joined hf ht hop hx =>
    rw [List.append_cons, Place.afterAll_append, Place.afterAll_append, front.afterAll_eq hf,
      Place.afterAll_operator ht hop, x.afterAll_eq hx rfl, Phrase.reading, Reading.push,
      Reading.op_combine]

end

theorem Operand.Spells.head_ne_comparator {x : Operand} {ts : List Token} (h : x.Spells ts)
    (rest : List Token) : ∀ t ∈ (ts ++ rest).head?, t.kind ≠ .comparator := by
  cases h with
  | comparison hn hk _ _ => cases hn <;> simp [*]
  | group hn ho _ _ => cases hn <;> simp [*]

theorem Node.leavesUnder_negateIf (negations : Nat) (negated : Bool) (node : Node) :
    (negateIf negated node).leavesUnder negations =
      node.leavesUnder (negations + negated.toNat) := by
  cases negated <;> rfl

theorem Reading.leavesUnderIn_combine (negations : Nat) (r : Reading) (op : Op) :
    Node.leavesUnderIn negations (r.combine op).children =
      Node.leavesUnderIn negations r.children := by
  unfold combine
  cases r.op with
  | none => rfl
  | some old => by_cases ho : old = op <;> simp [ho, Node.leavesUnderIn, Node.leavesUnder]

theorem Place.comparisons_comparison {p : Place} {key comparator value : Token}
    (hk : key.kind = .text) (hc : comparator.kind = .comparator) (hv : value.kind = .text)
    {rest : List Token} (hr : ∀ t ∈ rest.head?, t.kind ≠ .comparator) :
    p.comparisons (key :: comparator :: value :: rest) =
      ((key.text, value.text), p.negations) :: { p with negated := false }.comparisons rest := by
  have hentry : comparisonAt? (key :: comparator :: value :: rest) =
      some (key.text, value.text) := if_pos ⟨hk, hc, hv⟩
  rw [comparisons, hentry, comparisons_cons_of_ne (by simp [hc]), comparisons_cons_of_next fun _ => hr]
  simp [after, hk, hc, hv]

mutual

theorem Operand.comparisons_append (x : Operand) {ts : List Token} (h : x.Spells ts) {p : Place}
    (hp : p.negated = false) {rest : List Token} (hr : ∀ t ∈ rest.head?, t.kind ≠ .comparator) :
    p.comparisons (ts ++ rest) = x.node.leavesUnder p.negations ++ p.comparisons rest := by
  match x, h with
  | .comparison negated _ _, .comparison hn hk hc hv =>
    rw [List.append_assoc, Place.comparisons_negators hn hp]
    rw [List.cons_append, List.cons_append, List.cons_append, List.nil_append,
      Place.comparisons_comparison hk hc hv hr, Operand.node, Node.leavesUnder_negateIf,
      Place.negations_negated hp, ← hp]
    rfl
  | .group negated body, @Operand.Spells.group _ ns ts opening closing _ hn ho hb hc =>
    have hclosing : ∀ t ∈ (closing :: rest).head?, t.kind ≠ .comparator := by simp [hc]
    rw [List.append_assoc, Place.comparisons_negators hn hp, List.cons_append,
      Place.comparisons_cons_of_ne (by simp [ho]), Place.after_opening ho, List.append_assoc,
      List.singleton_append, body.comparisons_append hb hclosing, Place.negations_opened,
      Place.comparisons_cons_of_ne (by simp [hc]), Place.after_closing hc, Operand.node,
      Node.leavesUnder_negateIf, ← Place.negations_negated hp, ← hp]
    rfl

theorem Phrase.comparisons_append (q : Phrase) {ts : List Token} (h : q.Spells ts) {negated : Bool}
    {around : List Enclosure} {rest : List Token}
    (hr : ∀ t ∈ rest.head?, t.kind ≠ .comparator) :
    (between negated none around).comparisons (ts ++ rest) =
      Node.leavesUnderIn (between negated none around).negations q.reading.children ++
        (between negated q.reading.op around).comparisons rest := by
  match q, h with
  | .single x, .single hx =>
    rw [x.comparisons_append hx rfl hr]
    simp [Phrase.reading, Reading.push, Reading.empty, Node.leavesUnderIn]
  | .join front none x, .juxtaposed hf hx _ =>
    rw [List.append_assoc, front.comparisons_append hf (hx.head_ne_comparator rest),
      x.comparisons_append hx rfl hr, Place.negations_between negated front.reading.op,
      Phrase.reading, Reading.push, Node.leavesUnderIn_append, List.append_assoc]
    simp [Node.leavesUnderIn]
  | .join front (some op) x, @Phrase.Spells.joined _ _ ts us t _ hf ht hop hx =>
    have hoperator : ∀ u ∈ (t :: us ++ rest).head?, u.kind ≠ .comparator := by simp [ht]
    rw [List.append_assoc, front.comparisons_append hf hoperator, List.cons_append,
      Place.comparisons_cons_of_ne (by simp [ht]), Place.after_operator ht hop,
      x.comparisons_append hx rfl hr, Place.negations_between negated (some op), Phrase.reading,
      Reading.push, Node.leavesUnderIn_append, Reading.leavesUnderIn_combine, List.append_assoc,
      Reading.op_combine]
    simp [Node.leavesUnderIn]

end

/-- The nodes of each kind are as many as the tokens that make them. -/
structure Tally (p : Place) (ts : List Token) (nodes : List Node) : Prop where
  comparisons : ts.countP (·.kind = .comparator) = Node.comparisonCounts nodes
  negations : ts.countP (·.kind = .negator) = (Node.bottomUps nodes).countP (·.IsNegation)
  logicals : ts.countP (·.kind = .openGroup) + p.operatorChanges ts =
    (Node.bottomUps nodes).countP (·.IsLogical)

namespace Tally

variable {p : Place} {ts us : List Token} {front back : List Node}

theorem append (hf : Tally p ts front) (hb : Tally (p.afterAll ts) us back) :
    Tally p (ts ++ us) (front ++ back) where
  comparisons := by
    rw [List.countP_append, hf.comparisons, hb.comparisons, Node.comparisonCounts_append]
  negations := by
    rw [List.countP_append, hf.negations, hb.negations, Node.bottomUps_append, List.countP_append]
  logicals := by
    rw [List.countP_append, Place.operatorChanges_append, Node.bottomUps_append, List.countP_append,
      ← hf.logicals, ← hb.logicals]
    omega

theorem negators {negated : Bool} {ns : List Token} {node : Node} (hn : Negators negated ns)
    (hp : p.negated = false) (h : Tally { p with negated := negated } ts [node]) :
    Tally p (ns ++ ts) [negateIf negated node] where
  comparisons := by
    rw [List.countP_append, h.comparisons]
    cases hn <;> simp [*, negateIf, Node.comparisonCounts, Node.comparisonCount]
  negations := by
    rw [List.countP_append, h.negations]
    cases hn <;> simp [*, negateIf, Node.bottomUps, Node.bottomUp, Nat.add_comm]
  logicals := by
    rw [Place.operatorChanges_negators hn hp, List.countP_append, Nat.add_assoc, h.logicals]
    cases hn <;> simp [*, negateIf, Node.bottomUps, Node.bottomUp]

theorem group {r : Reading} {opening closing : Token} (ho : opening.kind = .openGroup)
    (hc : closing.kind = .closeGroup)
    (h : Tally (between p.negated none (p.innermost :: p.around)) ts r.children) :
    Tally p (opening :: (ts ++ [closing])) [r.node] where
  comparisons := by
    simp [ho, hc, h.comparisons, Reading.node, Node.comparisonCounts, Node.comparisonCount]
  negations := by simp [ho, hc, h.negations, Reading.node, Node.bottomUps, Node.bottomUp]
  logicals := by
    have hl := h.logicals
    rw [Place.operatorChanges_cons_of_ne (by simp [ho]), Place.after_opening ho,
      Place.operatorChanges_append, Place.operatorChanges_cons_of_ne (by simp [hc])]
    simp [ho, hc, Place.operatorChanges, Reading.node, Node.bottomUps, Node.bottomUp]
    omega

theorem operator {r : Reading} {negated : Bool} {around : List Enclosure} {t : Token} {op : Op}
    (ht : t.kind = .logicalOperator) (hop : Op.ofText? t.text = some op)
    (hplace : (between negated none around).afterAll ts = between negated r.op around)
    (h : Tally (between negated none around) ts r.children) :
    Tally (between negated none around) (ts ++ [t]) (r.combine op).children where
  comparisons := by
    rw [List.countP_append, h.comparisons]
    cases hr : r.op with
    | none => simp [Reading.combine, hr, ht]
    | some old =>
      by_cases ho : old = op <;>
        simp [Reading.combine, hr, ho, ht, Node.comparisonCounts, Node.comparisonCount]
  negations := by
    rw [List.countP_append, h.negations]
    cases hr : r.op with
    | none => simp [Reading.combine, hr, ht]
    | some old =>
      by_cases ho : old = op <;>
        simp [Reading.combine, hr, ho, ht, Node.bottomUps, Node.bottomUp]
  logicals := by
    have hl := h.logicals
    rw [List.countP_append, Place.operatorChanges_append, hplace,
      Place.operatorChanges_operator ht hop]
    cases hr : r.op with
    | none => simpa [Reading.combine, hr, ht] using hl
    | some old =>
      by_cases ho : old = op
      · simpa [Reading.combine, hr, ho, ht] using hl
      · simp [Reading.combine, hr, ho, ht, Node.bottomUps, Node.bottomUp]
        omega

end Tally

mutual

theorem Operand.tally (x : Operand) {ts : List Token} (h : x.Spells ts) {p : Place}
    (hp : p.negated = false) : Tally p ts [x.node] := by
  match x, h with
  | .comparison negated _ _, .comparison hn hk hc hv =>
    refine Tally.negators hn hp ⟨?_, ?_, ?_⟩
    · simp [hk, hc, hv, Node.comparisonCounts, Node.comparisonCount]
    · simp [hk, hc, hv, Node.bottomUps, Node.bottomUp]
    · rw [Place.operatorChanges_cons_of_ne (by simp [hk]),
        Place.operatorChanges_cons_of_ne (by simp [hc]),
        Place.operatorChanges_cons_of_ne (by simp [hv])]
      simp [hk, hc, hv, Place.operatorChanges, Node.bottomUps, Node.bottomUp]
  | .group negated body, .group hn ho hb hc =>
    exact Tally.negators hn hp (.group ho hc (body.tally hb))

theorem Phrase.tally (q : Phrase) {ts : List Token} (h : q.Spells ts) {negated : Bool}
    {around : List Enclosure} : Tally (between negated none around) ts q.reading.children := by
  match q, h with
  | .single x, .single hx => exact x.tally hx rfl
  | .join front none x, .juxtaposed hf hx _ =>
    refine (front.tally hf).append ?_
    rw [front.afterAll_eq hf]
    exact x.tally hx rfl
  | .join front (some op) x, @Phrase.Spells.joined _ _ ts us t _ hf ht hop hx =>
    rw [List.append_cons]
    refine ((front.tally hf).operator ht hop (front.afterAll_eq hf)).append ?_
    rw [Place.afterAll_append, front.afterAll_eq hf, Place.afterAll_operator ht hop]
    exact x.tally hx rfl

end

theorem countP_significant {k : Kind} (hk : k ≠ .whitespace) (ts : List Token) :
    (significant ts).countP (·.kind = k) = ts.countP (·.kind = k) := by
  rw [significant, List.countP_filter]
  refine List.countP_congr fun t _ => ?_
  simp only [Bool.and_eq_true, decide_eq_true_eq, and_iff_left_iff_imp]
  rintro rfl
  exact hk

/-- The comparisons of a tree are those of its tokens, in their order and each under as many negations
as there are `NOT`s in front of it and of the groups around it. Every `NOT` is a negation of the
tree. Its other nodes are the root, the groups, and one node for each change of operator. -/
theorem tally_of_parseTokens {ts : List Token} {node : Node} (h : parseTokens ts = .ok node) :
    node.leaves = comparisonsIn (significant ts) ∧
      node.comparisonCount = ts.countP (·.kind = .comparator) ∧
      node.leavesUnder 0 = Place.start.comparisons (significant ts) ∧
      node.bottomUp.countP (·.IsNegation) = ts.countP (·.kind = .negator) ∧
      node.bottomUp.countP (·.IsLogical) =
        1 + ts.countP (·.kind = .openGroup) + Place.start.operatorChanges (significant ts) := by
  obtain ⟨q, hq, rfl, -⟩ := (parseTokens_eq_ok_iff ts node).1 h
  have hleaves : q.node.leavesUnder 0 = Place.start.comparisons (significant ts) := by
    have hc := @Phrase.comparisons_append q _ hq false [] [] (by simp)
    rw [List.append_nil, Place.comparisons, List.append_nil] at hc
    exact hc.symm
  have htally : Tally Place.start (significant ts) q.reading.children := q.tally hq
  refine ⟨?_, ?_, hleaves, ?_, ?_⟩
  · rw [← Node.map_fst_leavesUnder 0, hleaves, Place.map_fst_comparisons]
  · rw [← countP_significant (by decide), htally.comparisons]
    rfl
  · rw [← countP_significant (by decide), htally.negations]
    simp [Phrase.node, Reading.node, Node.bottomUp]
  · rw [← countP_significant (by decide), Nat.add_assoc, htally.logicals]
    simp [Phrase.node, Reading.node, Node.bottomUp, Nat.add_comm]

theorem tally_of_parseTokens_nested :
    let ts := Cursor.tokens (Tokenizer.ofText "NOT (a:1 AND NOT b:2 OR c:3) d:4".toList)
    parseTokens ts = .ok (.logical .and [
        .negation (.logical .or [
          .logical .and [.comparison ['a'] ['1'], .negation (.comparison ['b'] ['2'])],
          .comparison ['c'] ['3']]),
        .comparison ['d'] ['4']]) ∧
      Place.start.comparisons (significant ts) =
        [((['a'], ['1']), 1), ((['b'], ['2']), 2), ((['c'], ['3']), 1), ((['d'], ['4']), 0)] ∧
      1 + ts.countP (·.kind = .openGroup) + Place.start.operatorChanges (significant ts) = 3 := by
  intro ts
  have h : parseTokens ts = .ok (.logical .and [
      .negation (.logical .or [
        .logical .and [.comparison ['a'] ['1'], .negation (.comparison ['b'] ['2'])],
        .comparison ['c'] ['3']]),
      .comparison ['d'] ['4']]) := by rfl
  obtain ⟨-, -, hleaves, -, hlogicals⟩ := tally_of_parseTokens h
  exact ⟨h, hleaves.symm, hlogicals.symm⟩

end FieldQuery
