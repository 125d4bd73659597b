import FieldQuery.Proofs.Grammar
set_option autoImplicit false

namespace FieldQuery

namespace Token

/-- A map of tokens that changes nothing but their columns. -/
structure Moves (f : Token → Token) : Prop where
  kind : ∀ t, (f t).kind = t.kind
  text : ∀ t, (f t).text = t.text

end Token

variable {f : Token → Token}

theorem Negators.map {negated : Bool} {ns : List Token} (hf : Token.Moves f)
    (h : Negators negated ns) : Negators negated (ns.map f) := by
  cases h with
  | none => exact .none
  | one ht => exact .one ((hf.kind _).trans ht)

theorem significant_map (hf : Token.Moves f) (ts : List Token) :
    significant (ts.map f) = (significant ts).map f := by
  induction ts with
  | nil => rfl
  | cons t ts ih =>
    by_cases ht : t.kind = .whitespace
    · have hm : (f t).kind = .whitespace := (hf.kind t).trans ht
      rw [List.map_cons, significant_cons_of_eq hm, significant_cons_of_eq ht, ih]
    · have hm : (f t).kind ≠ .whitespace := by rwa [hf.kind]
      rw [List.map_cons, significant_cons_of_ne hm, significant_cons_of_ne ht, ih, List.map_cons]

mutual

theorem Operand.Spells.map (hf : Token.Moves f) (x : Operand) {ts : List Token}
    (h : x.Spells ts) : x.Spells (ts.map f) := by
  match x, h with
  | .comparison negated _ _, @Operand.Spells.comparison _ ns key comparator value hn hk hc hv =>
    have hs := Operand.Spells.comparison (hn.map hf) ((hf.kind key).trans hk)
      ((hf.kind comparator).trans hc) ((hf.kind value).trans hv)
    rw [hf.text, hf.text] at hs
    simpa using hs
  | .group negated body, .group hn ho hb hc =>
    have hs := Operand.Spells.group (hn.map hf) ((hf.kind _).trans ho) (hb.map hf body)
      ((hf.kind _).trans hc)
    simpa using hs

theorem Phrase.Spells.map (hf : Token.Moves f) (p : Phrase) {ts : List Token}
    (h : p.Spells ts) : p.Spells (ts.map f) := by
  match p, h with
  | .single x, .single hx => exact .single (hx.map hf x)
  | .join front none x, .juxtaposed hp hx hb =>
    have hs := Phrase.Spells.juxtaposed (hp.map hf front) (hx.map hf x) hb
    simpa using hs
  | .join front (some op) x, .joined hp ht hop hx =>
    have hs := Phrase.Spells.joined (hp.map hf front) ((hf.kind _).trans ht) (by rwa [hf.text])
      (hx.map hf x)
    simpa using hs

end

end FieldQuery
