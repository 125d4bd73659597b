import FieldQuery.Node.Printed
import FieldQuery.Proofs.Node.Codec
import FieldQuery.Proofs.Paint
import FieldQuery.Proofs.Settings.Written
import FieldQuery.Proofs.Text.Lines
import FieldQuery.Proofs.Text.Parts
set_option autoImplicit false

/-! Highlighted documents without their colours. The ranges of a line cover the line, so that nothing
but codes is written between its characters. The writers escape the escape character in every string,
and no document has a sequence of its own that would be taken for a code. -/

namespace FieldQuery

theorem Hue.shows_code (hue : Hue) : hue.code.Shows [] := by
  cases hue <;> exact shows_sgr rfl

namespace Highlight

theorem shows_escaped {ranges : List Range} (h : '\x1b' ∉ ranges.flatMap Range.text) :
    (escaped ranges).Shows (ranges.flatMap Range.text) := by
  induction ranges with
  | nil => exact .self nofun
  | cons range ranges ih =>
    obtain ⟨hrange, hranges⟩ := not_or.1 (mt List.mem_append.2 h)
    exact (range.hue.shows_code.append (.self hrange)).append (ih hranges)

/-- Whenever a line can be parsed, its ranges put together are the line. -/
def Syntax.Tiles (found : Syntax) : Prop :=
  ∀ (state : found.State) (line : Text), ∀ ranges ∈ (found.line state line).1,
    ranges.flatMap Range.text = line

theorem Grammar.flatMap_ranges {σ : Type} (grammar : Grammar σ) (context : σ) (line : Text) :
    (grammar.ranges context line).1.flatMap Range.text = line := by
  fun_induction Grammar.ranges grammar context line with
  | case1 => rfl
  | case2 context c rest cut ranges behind heq ih =>
    rw [heq] at ih
    rw [List.flatMap_cons, ih]
    exact (grammar.tiles context c rest).append_left

theorem Grammar.tiles_toSyntax {σ : Type} (grammar : Grammar σ) (name : Text)
    (extensions : List Text) (start : σ) : (grammar.toSyntax name extensions start).Tiles := by
  rintro context line ranges h
  obtain rfl : (grammar.ranges context line).1 = ranges := Option.some.inj h
  exact grammar.flatMap_ranges context line

theorem tiles_of_mem_bundled : ∀ found ∈ bundled.syntaxes, found.Tiles := by
  intro found h
  rcases List.mem_cons.1 h with rfl | h
  · exact plainGrammar.tiles_toSyntax _ _ ()
  rcases List.mem_cons.1 h with rfl | h
  · exact jsonGrammar.tiles_toSyntax _ _ .outside
  rw [List.mem_singleton.1 h]
  exact tomlGrammar.tiles_toSyntax _ _ .lineStart

theorem Syntax.Tiles.flatMap_getD {found : Syntax} (h : found.Tiles) (state : found.State)
    (line : Text) :
    ((found.line state line).1.getD [⟨.unstyled, line⟩]).flatMap Range.text = line := by
  cases hr : (found.line state line).1 with
  | none => exact List.append_nil line
  | some ranges => exact h state line ranges hr

theorem shows_highlightLines {found : Syntax} (h : found.Tiles) (state : found.State)
    {lines : List Text} (hlines : '\x1b' ∉ lines.flatten) :
    (highlightLines found state lines).Shows lines.flatten := by
  induction lines generalizing state with
  | nil => exact .self nofun
  | cons line lines ih =>
    obtain ⟨hline, hrest⟩ := not_or.1 (mt List.mem_append.2 hlines)
    have hranges := h.flatMap_getD state line
    have hfront := shows_escaped (hranges.symm ▸ hline)
    rw [hranges] at hfront
    exact hfront.append (ih (found.line state line).2 hrest)

theorem uncoloured_highlight {set : SyntaxSet} {name content : Text}
    (h : (set.lookup name).Tiles) (hcontent : '\x1b' ∉ content) :
    (set.highlight content name).uncoloured = content := by
  rw [← Text.flatten_pieces content] at hcontent
  have hlines := shows_highlightLines h (set.lookup name).start hcontent
  rw [SyntaxSet.highlight, (hlines.append shows_resetCode).uncoloured_eq, List.append_nil,
    Text.flatten_pieces]

theorem SyntaxSet.lookup_mem (set : SyntaxSet) (name : Text) :
    set.lookup name ∈ set.syntaxes := by
  have hmem {keep : Syntax → Bool} {found : Syntax}
      (h : set.syntaxes.reverse.find? keep = some found) : found ∈ set.syntaxes :=
    List.mem_reverse.1 (List.mem_of_find?_eq_some h)
  rw [lookup]
  cases hextension : findByExtension? set.syntaxes name with
  | some found => exact hmem hextension
  | none =>
    cases hname : findByName? set.syntaxes name with
    | some found => exact hmem hname
    | none => exact hmem set.find_plainText

theorem SyntaxSet.lookup_of_unknown {set : SyntaxSet} {name : Text}
    (hextension : findByExtension? set.syntaxes name = none)
    (hname : findByName? set.syntaxes name = none) : set.lookup name = set.plainText := by
  rw [lookup, hextension, hname]
  rfl

example : (bundled.lookup "Json".toList).name = "JSON".toList := rfl

end Highlight

theorem hexDigits_ne (n : Nat) : Json.hexDigit n ≠ '\x1b' ∧ Toml.upperHexDigit n ≠ '\x1b' := by
  have hdigits : ∀ k < 16, Nat.digitChar k ≠ '\x1b' ∧ (Nat.digitChar k).toUpper ≠ '\x1b' := by
    decide
  exact hdigits _ (Nat.mod_lt n (by decide))

namespace Json

theorem not_mem_escapeChar (c : Char) : '\x1b' ∉ escapeChar c := by
  by_cases hc : c = '\x1b'
  · subst hc
    decide
  · unfold escapeChar
    repeat' split
    all_goals simp [Ne.symm hc, Ne.symm (hexDigits_ne _).1]

theorem not_mem_quote (text : Text) : '\x1b' ∉ quote text := by
  have hbody : '\x1b' ∉ text.flatMap escapeChar := by
    intro h
    obtain ⟨c, -, hc⟩ := List.mem_flatMap.1 h
    exact not_mem_escapeChar c hc
  simp [quote, hbody]

theorem not_mem_commas {parts : List Text} (h : ∀ part ∈ parts, '\x1b' ∉ part) :
    '\x1b' ∉ [','].intercalate parts :=
  Text.not_mem_intercalate (by decide) h

theorem not_mem_lineStart (level : Nat) : '\x1b' ∉ lineStart level := by
  simp [lineStart]

theorem not_mem_block (level : Nat) {opening closing : Char} (ho : opening ≠ '\x1b')
    (hc : closing ≠ '\x1b') {parts : List Text} (h : ∀ part ∈ parts, '\x1b' ∉ part) :
    '\x1b' ∉ block level opening closing parts := by
  have hparts : ∀ part ∈ parts.map (lineStart (level + 1) ++ ·), '\x1b' ∉ part := by
    intro part hp
    obtain ⟨inner, hinner, rfl⟩ := List.mem_map.1 hp
    simp [not_mem_lineStart, h inner hinner]
  unfold block
  split
  · simp [Ne.symm ho, Ne.symm hc]
  · simp [Ne.symm ho, Ne.symm hc, not_mem_lineStart, not_mem_commas hparts]

mutual

theorem not_mem_compact : (document : Json) → document.Worded → '\x1b' ∉ document.compact
  | .null, _ => by decide
  | .bool true, _ => by decide
  | .bool false, _ => by decide
  | .string text, _ => not_mem_quote text
  | .array items, hw => by
    simp [compact, not_mem_commas (not_mem_compactItems items hw)]
  | .object fields, hw => by
    simp [compact, not_mem_commas (not_mem_compactFields fields hw)]

theorem not_mem_compactItems : (items : List Json) → WordedItems items →
    ∀ part ∈ compactItems items, '\x1b' ∉ part
  | [], _ => nofun
  | item :: items, hw =>
    List.forall_mem_cons.2 ⟨not_mem_compact item hw.1, not_mem_compactItems items hw.2⟩

theorem not_mem_compactFields : (fields : List (Text × Json)) → WordedFields fields →
    ∀ part ∈ compactFields fields, '\x1b' ∉ part
  | [], _ => nofun
  | (key, value) :: fields, hw =>
    List.forall_mem_cons.2 ⟨by simp [not_mem_quote, not_mem_compact value hw.1],
      not_mem_compactFields fields hw.2⟩

end

mutual

theorem not_mem_prettyAt : (document : Json) → ∀ level : Nat, document.Worded →
    '\x1b' ∉ document.prettyAt level
  | .null, _, _ => not_mem_compact .null trivial
  | .bool true, _, _ => not_mem_compact (.bool true) trivial
  | .bool false, _, _ => not_mem_compact (.bool false) trivial
  | .string text, _, _ => not_mem_quote text
  | .array items, level, hw =>
    not_mem_block level (by decide) (by decide) (not_mem_prettyItems items (level + 1) hw)
  | .object fields, level, hw =>
    not_mem_block level (by decide) (by decide) (not_mem_prettyFields fields (level + 1) hw)

theorem not_mem_prettyItems : (items : List Json) → ∀ level : Nat, WordedItems items →
    ∀ part ∈ prettyItems level items, '\x1b' ∉ part
  | [], _, _ => nofun
  | item :: items, level, hw =>
    List.forall_mem_cons.2
      ⟨not_mem_prettyAt item level hw.1, not_mem_prettyItems items level hw.2⟩

theorem not_mem_prettyFields : (fields : List (Text × Json)) → ∀ level : Nat,
    WordedFields fields → ∀ part ∈ prettyFields level fields, '\x1b' ∉ part
  | [], _, _ => nofun
  | (key, value) :: fields, level, hw =>
    List.forall_mem_cons.2 ⟨by simp [not_mem_quote, not_mem_prettyAt value level hw.1],
      not_mem_prettyFields fields level hw.2⟩

end

theorem not_mem_write (isPretty : Bool) {document : Json} (hw : document.Worded) :
    '\x1b' ∉ document.write isPretty := by
  cases isPretty with
  | true => exact not_mem_prettyAt document 0 hw
  | false => exact not_mem_compact document hw

end Json

namespace Toml

theorem not_mem_of_escaped? {multiline : Bool} {c : Char} {escape : Text}
    (h : escaped? multiline c = some escape) : '\x1b' ∉ escape := by
  unfold escaped? at h
  split_ifs at h <;> obtain rfl := Option.some.inj h
  all_goals simp [Ne.symm (hexDigits_ne _).2]

theorem not_mem_writeBasic (multiline : Bool) (quotes : Nat) (text : Text) :
    '\x1b' ∉ writeBasic multiline quotes text := by
  induction text generalizing quotes with
  | nil => nofun
  | cons c text ih =>
    rw [writeBasic]
    split
    · next hc =>
      subst hc
      split <;> simp [ih]
    · split
      · next he => simp [not_mem_of_escaped? he, ih]
      · next he =>
        have hholds : Form.Holds ⟨'"', multiline⟩ c := holds_of_escaped?_eq_none he
        have hne : c ≠ '\x1b' := hholds.ne_of_isForbidden (by decide) (by decide)
        simp [ih, Ne.symm hne]

theorem not_mem_bodyOf (text : Text) : '\x1b' ∉ bodyOf text := by
  rw [bodyOf]
  split
  · exact not_mem_writeBasic _ 0 text
  · next hq =>
    intro h
    have hholds := Form.holds_of_fits hq (fits_formOf hq) _ h
    exact hholds.ne_of_isForbidden (by decide) (by decide) rfl

theorem not_mem_writeString (text : Text) : '\x1b' ∉ writeString text := by
  have hdelimiter : '\x1b' ∉ (formOf text).delimiter := by
    rcases formOf_cases text with h | h | h | h <;> rw [h] <;> decide
  rw [writeString_eq]
  split <;> simp [hdelimiter, not_mem_bodyOf]

end Toml

theorem Settings.not_mem_toToml (s : Settings) : '\x1b' ∉ s.toToml := by
  have hbool (b : Bool) : '\x1b' ∉ boolText b := by cases b <;> decide
  unfold toToml
  simp only [List.mem_append, not_or, Toml.not_mem_writeString, hbool, not_false_eq_true, and_true]
  decide

/-- Without its colours a highlighted document is the document: a tree in JSON, written either way,
and settings in TOML. So is any text that holds no escape character, in a syntax whose ranges tile
every line that it can parse, and in one that is not known. The ranges of all bundled syntaxes tile
every line, in whatever state the lines above it leave. -/
theorem uncoloured_highlighted :
    (∀ (node : Node) (isPretty : Bool),
      (node.printed .json isPretty true).uncoloured = node.printed .json isPretty false) ∧
    (∀ s : Settings, (Highlight.toml s.toToml).uncoloured = s.toToml) ∧
    (∀ (set : Highlight.SyntaxSet) (name content : Text), (set.lookup name).Tiles →
      '\x1b' ∉ content → (set.highlight content name).uncoloured = content) ∧
    (∀ (set : Highlight.SyntaxSet) (name content : Text), set.plainText = Highlight.plainText →
      Highlight.findByExtension? set.syntaxes name = none →
      Highlight.findByName? set.syntaxes name = none → '\x1b' ∉ content →
      (set.highlight content name).uncoloured = content) ∧
    ∀ found ∈ Highlight.bundled.syntaxes, found.Tiles := by
  have hbundled (name : Text) : (Highlight.bundled.lookup name).Tiles :=
    Highlight.tiles_of_mem_bundled _ (Highlight.bundled.lookup_mem name)
  refine ⟨fun node isPretty => ?_, fun s => ?_, fun set name content => ?_, ?_,
    Highlight.tiles_of_mem_bundled⟩
  · refine Highlight.uncoloured_highlight (hbundled _) ?_
    simp [Json.not_mem_write isPretty (Node.worded_toJson node)]
  · exact Highlight.uncoloured_highlight (hbundled _) s.not_mem_toToml
  · exact Highlight.uncoloured_highlight
  · intro set name content hplain hextension hname hcontent
    refine Highlight.uncoloured_highlight ?_ hcontent
    rw [Highlight.SyntaxSet.lookup_of_unknown hextension hname, hplain]
    exact Highlight.plainGrammar.tiles_toSyntax _ _ ()

/-- Text that looks like the rest of a code, in a syntax that is not known and in one that is asked
for by its name, and a key that holds an escape character. -/
theorem uncoloured_highlighted_fragments :
    let content := "[1m\n\n0m;".toList
    '\x1b' ∉ content ∧
      (Highlight.bundled.highlight content "json5".toList).uncoloured = content ∧
      (Highlight.bundled.lookup "Plain Text".toList).Tiles ∧
      (Highlight.bundled.highlight content "Plain Text".toList).uncoloured = content ∧
      ((Node.comparison "\x1b[1m\"".toList []).printed .json true true).uncoloured =
        (Node.comparison "\x1b[1m\"".toList []).printed .json true false := by
  intro content
  have hcontent : '\x1b' ∉ content := by decide
  obtain ⟨hjson, -, hknown, hunknown, htiles⟩ := uncoloured_highlighted
  have hname := htiles _ (Highlight.bundled.lookup_mem "Plain Text".toList)
  exact ⟨hcontent, hunknown Highlight.bundled _ _ rfl rfl rfl hcontent, hname,
    hknown _ _ _ hname hcontent, hjson _ true⟩

end FieldQuery
