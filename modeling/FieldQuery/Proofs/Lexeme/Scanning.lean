import FieldQuery.Proofs.Lexeme.Tiling
import FieldQuery.Proofs.Token.Escape
import FieldQuery.Text.Utf8
set_option autoImplicit false

/-! Two scanners go over a quoted text. The first looks for the closing quote and takes a backslash
with one character behind it; the second decodes, and an escape may take up to four characters. They
agree on the backslashes that start an escape: what an escape takes beyond its second character are
digits, and each of them is a piece of its own to the first scanner. -/

namespace FieldQuery

namespace Token

/-- The rounds of the decoder: what each one takes of the body, and the character it gives. -/
def rounds : Text → List BodyUnit
  | [] => []
  | ['\\'] => [⟨['\\'], '\\'⟩]
  | '\\' :: e :: rest =>
    ⟨'\\' :: e :: rest.take (rest.length - (escape e rest).2.length), (escape e rest).1⟩ ::
      rounds (escape e rest).2
  | c :: cs => ⟨[c], c⟩ :: rounds cs
termination_by raw => raw.length
decreasing_by
  · have hle := length_escape_le e rest
    simp only [List.length_cons]
    omega
  · simp

theorem rounds_plain {c : Char} (hc : c ≠ '\\') (cs : Text) :
    rounds (c :: cs) = ⟨[c], c⟩ :: rounds cs :=
  rounds.eq_4 c cs (fun h _ => hc h) fun _ _ h _ => hc h

theorem exists_rounds_escape (e : Char) (rest : Text) :
    ∃ taken left value, rest = taken ++ left ∧ '\\' ∉ taken ∧
      escape e rest = (value, left) ∧
      rounds ('\\' :: e :: rest) = ⟨'\\' :: e :: taken, value⟩ :: rounds left := by
  obtain ⟨taken, hrest, hnot⟩ := exists_escape_taken e rest
  refine ⟨taken, (escape e rest).2, (escape e rest).1, hrest, hnot, rfl, ?_⟩
  have htake : rest.take (rest.length - (escape e rest).2.length) = taken := by
    have hlength := congrArg List.length hrest
    rw [List.length_append] at hlength
    rw [hlength, Nat.add_sub_cancel]
    exact hrest ▸ List.take_left
  rw [rounds, htake]

theorem rounds_decode (raw : Text) :
    (rounds raw).map BodyUnit.value = unescape raw ∧
      (rounds raw).flatMap BodyUnit.span = raw := by
  induction hn : raw.length using Nat.strongRecOn generalizing raw with
  | ind n ih =>
    subst hn
    cases raw with
    | nil => exact ⟨by simp [rounds]; rfl, by simp [rounds]⟩
    | cons c cs =>
      by_cases hc : c = '\\'
      · subst hc
        cases cs with
        | nil => exact ⟨by simp [rounds]; rfl, by simp [rounds]⟩
        | cons e rest =>
          obtain ⟨taken, left, value, hrest, -, hescape, hrounds⟩ := exists_rounds_escape e rest
          obtain ⟨hvalue, hspan⟩ := ih left.length (by simp [hrest]; omega) left rfl
          rw [hrounds, unescape_escape hescape]
          exact ⟨by simp [hvalue], by simp [hspan, hrest]⟩
      · obtain ⟨hvalue, hspan⟩ := ih cs.length (Nat.lt_succ_self _) cs rfl
        rw [rounds_plain hc, unescape_plain hc]
        exact ⟨by simp [hvalue], by simp [hspan]⟩

end Token

namespace Text

theorem toBytes_eq (text : Text) : toBytes text = text.utf8Encode := by
  rw [toBytes, String.toUTF8_eq_toByteArray, String.toByteArray_ofList]

theorem toBytes_nil : toBytes [] = .empty := by
  rw [toBytes_eq, List.utf8Encode_nil]

theorem toBytes_append (a b : Text) : toBytes (a ++ b) = toBytes a ++ toBytes b := by
  rw [toBytes_eq, toBytes_eq, toBytes_eq, List.utf8Encode_append]

theorem size_toBytes_append (a b : Text) :
    (toBytes (a ++ b)).size = (toBytes a).size + (toBytes b).size := by
  rw [toBytes_append, ByteArray.size_append]

theorem size_toBytes_cons (c : Char) (text : Text) :
    (toBytes (c :: text)).size = c.utf8Size + (toBytes text).size := by
  rw [toBytes_eq, toBytes_eq, List.utf8Encode_cons, ByteArray.size_append,
    List.utf8Encode_singleton, List.size_toByteArray, String.length_utf8EncodeChar]

end Text

namespace Lexeme

/-- What a quoted text is made of: characters, and backslashes with one character behind each. -/
inductive BodyPiece : Text → Prop where
  | plain {c : Char} : c ≠ '"' → c ≠ '\\' → BodyPiece [c]
  | escaped {c : Char} : BodyPiece ['\\', c]

theorem quotedBody_of_pieces {pieces : List Text} (h : ∀ p ∈ pieces, BodyPiece p) :
    QuotedBody pieces.flatten := by
  induction pieces with
  | nil => exact .nil
  | cons piece pieces ih =>
    obtain ⟨hp, hpieces⟩ := List.forall_mem_cons.1 h
    cases hp with
    | plain hq hb => exact .plain hq hb (ih hpieces)
    | escaped => exact .escaped (ih hpieces)

theorem flatten_ne_nil_iff {pieces : List Text} (h : ∀ p ∈ pieces, BodyPiece p) :
    pieces.flatten ≠ [] ↔ pieces ≠ [] := by
  cases pieces with
  | nil => simp
  | cons piece pieces => cases (List.forall_mem_cons.1 h).1 <;> simp

theorem QuotedBody.exists_pieces {body : Text} (h : QuotedBody body) :
    ∃ pieces : List Text, (∀ p ∈ pieces, BodyPiece p) ∧ pieces.flatten = body := by
  induction h with
  | nil => exact ⟨[], nofun, rfl⟩
  | @plain c body hq hb _ ih =>
    obtain ⟨pieces, hpieces, rfl⟩ := ih
    exact ⟨[c] :: pieces, List.forall_mem_cons.2 ⟨.plain hq hb, hpieces⟩, rfl⟩
  | @escaped c body _ ih =>
    obtain ⟨pieces, hpieces, rfl⟩ := ih
    exact ⟨['\\', c] :: pieces, List.forall_mem_cons.2 ⟨.escaped, hpieces⟩, rfl⟩

theorem escaped_of_quote {pieces : List Text} (h : ∀ p ∈ pieces, BodyPiece p) {front back : Text}
    (hq : pieces.flatten = front ++ '"' :: back) :
    ∃ before after, pieces = before ++ ['\\', '"'] :: after ∧
      front = before.flatten ++ ['\\'] := by
  induction pieces generalizing front with
  | nil => simp at hq
  | cons piece pieces ih =>
    obtain ⟨hp, hpieces⟩ := List.forall_mem_cons.1 h
    cases hp with
    | @plain c hc hb =>
      cases front with
      | nil => exact absurd (List.cons.inj hq).1 hc
      | cons d front =>
        obtain ⟨rfl, htail⟩ := List.cons.inj hq
        obtain ⟨before, after, rfl, rfl⟩ := ih hpieces htail
        exact ⟨[c] :: before, after, rfl, rfl⟩
    | @escaped c =>
      match front with
      | [] => simp at hq
      | [d] =>
        obtain ⟨rfl, htail⟩ := List.cons.inj hq
        obtain ⟨rfl, -⟩ := List.cons.inj htail
        exact ⟨[], pieces, rfl, rfl⟩
      | d :: e :: front =>
        obtain ⟨rfl, hbehind⟩ := List.cons.inj hq
        obtain ⟨rfl, htail⟩ := List.cons.inj hbehind
        obtain ⟨before, after, rfl, rfl⟩ := ih hpieces htail
        exact ⟨['\\', c] :: before, after, rfl, rfl⟩

/-- The columns of the parts that start with a backslash. -/
def backslashes : Nat → List Text → List Nat
  | _, [] => []
  | column, part :: parts =>
    if part.head? = some '\\' then column :: backslashes (column + part.length) parts
    else backslashes (column + part.length) parts

theorem exists_pieces_behind {pieces : List Text} (h : ∀ p ∈ pieces, BodyPiece p)
    {taken left : Text} (hf : pieces.flatten = taken ++ left) (hn : '\\' ∉ taken) :
    ∃ behind : List Text, (∀ p ∈ behind, BodyPiece p) ∧ behind.flatten = left ∧
      ∀ column, backslashes column pieces = backslashes (column + taken.length) behind := by
  induction taken generalizing pieces with
  | nil => exact ⟨pieces, h, hf, fun _ => rfl⟩
  | cons d taken ih =>
    obtain ⟨hd, htaken⟩ := List.ne_and_not_mem_of_not_mem_cons hn
    cases pieces with
    | nil => simp at hf
    | cons piece pieces =>
      obtain ⟨hp, hpieces⟩ := List.forall_mem_cons.1 h
      cases hp with
      | @plain c _ hb =>
        obtain ⟨rfl, htail⟩ := List.cons.inj hf
        obtain ⟨behind, hbehind, rfl, heq⟩ := ih hpieces htail htaken
        refine ⟨behind, hbehind, rfl, fun column => ?_⟩
        have hcolumn : column + (taken.length + 1) = column + 1 + taken.length := by omega
        simp [backslashes, hb, heq, hcolumn]
      | escaped => exact absurd (List.cons.inj hf).1 hd

/-- The decoder starts an escape where a piece has a backslash, and takes no backslash alone. -/
theorem rounds_of_pieces {pieces : List Text} (h : ∀ p ∈ pieces, BodyPiece p) :
    (∀ column, backslashes column ((Token.rounds pieces.flatten).map Token.BodyUnit.span) =
      backslashes column pieces) ∧
      ∀ round ∈ Token.rounds pieces.flatten, round.span ≠ ['\\'] := by
  induction hn : pieces.flatten.length using Nat.strongRecOn generalizing pieces with
  | ind n ih =>
    subst hn
    cases pieces with
    | nil => simp [Token.rounds, backslashes]
    | cons piece pieces =>
      obtain ⟨hp, hpieces⟩ := List.forall_mem_cons.1 h
      cases hp with
      | @plain c _ hb =>
        obtain ⟨hcolumns, hspans⟩ := ih _ (by simp) hpieces rfl
        have hrounds := Token.rounds_plain hb pieces.flatten
        simp only [List.flatten_cons, List.cons_append, List.nil_append, hrounds, List.map_cons,
          List.forall_mem_cons]
        exact ⟨fun column => by simp [backslashes, hb, hcolumns], by simpa using hb, hspans⟩
      | @escaped c =>
        obtain ⟨taken, left, value, hrest, hnot, -, hrounds⟩ :=
          Token.exists_rounds_escape c pieces.flatten
        obtain ⟨behind, hbehind, rfl, heq⟩ := exists_pieces_behind hpieces hrest hnot
        obtain ⟨hcolumns, hspans⟩ := ih behind.flatten.length (by simp [hrest]; omega) hbehind rfl
        simp only [List.flatten_cons, List.cons_append, List.nil_append, hrounds, List.map_cons,
          List.forall_mem_cons]
        refine ⟨fun column => ?_, by simp, hspans⟩
        have hcolumn : column + (taken.length + 1 + 1) = column + 2 + taken.length := by omega
        simp [backslashes, hcolumns, heq, hcolumn]

/-- The offset in bytes of the closing quote, for a scan that has come to some offset behind the
opening one. -/
def closing? : Nat → Text → Option Nat
  | _, [] => none
  | _, ['\\'] => none
  | offset, '\\' :: c :: rest => closing? (offset + '\\'.utf8Size + c.utf8Size) rest
  | offset, '"' :: _ => some offset
  | offset, c :: rest => closing? (offset + c.utf8Size) rest

theorem closing?_eq (offset : Nat) (text : Text) :
    closing? offset text =
      (splitQuoted text).map fun found => offset + (Text.toBytes found.1).size := by
  fun_induction closing? offset text with
  | case1 => rfl
  | case2 => rfl
  | case3 offset c rest ih =>
    rw [ih, splitQuoted, Option.map_map]
    congr 1
    funext found
    simp [Text.size_toBytes_cons, Nat.add_assoc]
  | case4 offset rest => rfl
  | case5 offset c rest hlast hmore hq ih =>
    rw [ih, splitQuoted.eq_5 c rest hlast hmore hq, Option.map_map]
    congr 1
    funext found
    simp [Text.size_toBytes_cons, Nat.add_assoc]

def frontQuoted? : Text → Option (Lexeme × Text)
  | '"' :: rest => quoted? rest
  | _ => none

theorem frontQuoted?_of_ne {input : Text} (h : input.head? ≠ some '"') :
    frontQuoted? input = none := by
  unfold frontQuoted?
  split
  · simp at h
  · rfl

theorem quoted?_eq_some_iff {text rest : Text} {lexeme : Lexeme} :
    quoted? text = some (lexeme, rest) ↔ ∃ body, body ≠ [] ∧ splitQuoted text = some (body, rest) ∧
      lexeme = ⟨.text, Token.unescape body, '"' :: body ++ ['"']⟩ := by
  unfold quoted?
  split
  · next c body _ hs =>
    simp only [hs, Option.some.injEq, Prod.mk.injEq]
    constructor
    · rintro ⟨rfl, rfl⟩
      exact ⟨c :: body, List.cons_ne_nil _ _, ⟨rfl, rfl⟩, rfl⟩
    · rintro ⟨_, -, ⟨rfl, rfl⟩, rfl⟩
      exact ⟨rfl, rfl⟩
  · next hno =>
    refine ⟨nofun, ?_⟩
    rintro ⟨body, hne, hs, -⟩
    obtain ⟨c, body, rfl⟩ := List.exists_cons_of_ne_nil hne
    exact absurd hs (hno c body rest)

theorem quoted?_eq_none_iff {text : Text} :
    quoted? text = none ↔ (∃ rest, text = '"' :: rest) ∨ splitQuoted text = none := by
  cases hs : splitQuoted text with
  | none => simp [quoted?, hs]
  | some found =>
    obtain ⟨body, rest⟩ := found
    obtain ⟨hb, rfl⟩ := splitQuoted_eq_some_iff.1 hs
    rw [quoted?, hs]
    cases hb with
    | nil => simp
    | plain hq _ _ => simp [hq]
    | escaped _ => simp

theorem splitQuoted_eq_none_iff {text : Text} :
    splitQuoted text = none ↔ ¬ ∃ (pieces : List Text) (rest : Text),
      (∀ p ∈ pieces, BodyPiece p) ∧ text = pieces.flatten ++ '"' :: rest := by
  rw [← not_iff_not, not_not, ← ne_eq, Option.ne_none_iff_exists']
  constructor
  · rintro ⟨⟨body, rest⟩, hs⟩
    obtain ⟨hb, rfl⟩ := splitQuoted_eq_some_iff.1 hs
    obtain ⟨pieces, hpieces, rfl⟩ := hb.exists_pieces
    exact ⟨pieces, rest, hpieces, rfl⟩
  · rintro ⟨pieces, rest, hpieces, rfl⟩
    exact ⟨_, (quotedBody_of_pieces hpieces).splitQuoted rest⟩

/-- A quoted text at the front of an input, cut into the pieces between its quotes. -/
structure Quotes (input : Text) (lexeme : Lexeme) (rest : Text) (pieces : List Text) : Prop where
  pieces_ne_nil : pieces ≠ []
  bodyPiece_of_mem : ∀ p ∈ pieces, BodyPiece p
  input_eq : input = lexeme.span ++ rest
  lexeme_eq : lexeme = ⟨.text, Token.unescape pieces.flatten, '"' :: pieces.flatten ++ ['"']⟩

/-- How the two scanners go over the pieces of a quoted text. -/
structure ScannedAlike (input : Text) (lexeme : Lexeme) (pieces : List Text) : Prop where
  /-- A quote in front of the closing one is the second character of a piece. -/
  inner_quote : ∀ front back, pieces.flatten = front ++ '"' :: back →
    ∃ before after, pieces = before ++ ['\\', '"'] :: after ∧ front = before.flatten ++ ['\\']
  closing_eq : closing? 0 input.tail = some (Text.toBytes pieces.flatten).size
  /-- So many bytes, and two for the quotes, are the bytes of the span. -/
  bytes_eq : (Text.toBytes input).extract 0 ((Text.toBytes pieces.flatten).size + 2) =
    Text.toBytes lexeme.span
  rounds_value : (Token.rounds pieces.flatten).map Token.BodyUnit.value = lexeme.text
  rounds_span : (Token.rounds pieces.flatten).flatMap Token.BodyUnit.span = pieces.flatten
  backslashes_eq : backslashes 0 ((Token.rounds pieces.flatten).map Token.BodyUnit.span) =
    backslashes 0 pieces
  not_dangling : ∀ round ∈ Token.rounds pieces.flatten, round.span ≠ ['\\']
  text_ne_nil : lexeme.text ≠ []

theorem frontQuoted?_eq_some_iff {input rest : Text} {lexeme : Lexeme} :
    frontQuoted? input = some (lexeme, rest) ↔ ∃ pieces, Quotes input lexeme rest pieces := by
  constructor
  · intro h
    unfold frontQuoted? at h
    split at h
    · next text =>
      obtain ⟨body, hne, hs, rfl⟩ := quoted?_eq_some_iff.1 h
      obtain ⟨hb, rfl⟩ := splitQuoted_eq_some_iff.1 hs
      obtain ⟨pieces, hpieces, rfl⟩ := hb.exists_pieces
      exact ⟨pieces, (flatten_ne_nil_iff hpieces).1 hne, hpieces, by simp, rfl⟩
    · cases h
  · rintro ⟨pieces, hne, hpieces, rfl, rfl⟩
    have hbody := (flatten_ne_nil_iff hpieces).2 hne
    have hs := (quotedBody_of_pieces hpieces).splitQuoted rest
    simp only [List.cons_append, List.append_assoc, List.nil_append, frontQuoted?]
    exact quoted?_eq_some_iff.2 ⟨_, hbody, hs, rfl⟩

theorem frontQuoted?_eq_none_iff {input : Text} :
    frontQuoted? input = none ↔ input.head? ≠ some '"' ∨ (∃ rest, input = '"' :: '"' :: rest) ∨
      ¬ ∃ (pieces : List Text) (rest : Text), (∀ p ∈ pieces, BodyPiece p) ∧
        input = '"' :: pieces.flatten ++ '"' :: rest := by
  by_cases hq : input.head? = some '"'
  · obtain ⟨text, rfl⟩ := List.head?_eq_some_iff.1 hq
    rw [frontQuoted?, quoted?_eq_none_iff, splitQuoted_eq_none_iff]
    simp
  · simp [frontQuoted?_of_ne hq, hq]

theorem Quotes.scannedAlike {input rest : Text} {lexeme : Lexeme} {pieces : List Text}
    (h : Quotes input lexeme rest pieces) : ScannedAlike input lexeme pieces := by
  obtain ⟨hne, hpieces, rfl, rfl⟩ := h
  obtain ⟨hvalue, hspan⟩ := Token.rounds_decode pieces.flatten
  obtain ⟨hcolumns, hdangling⟩ := rounds_of_pieces hpieces
  have hbody := (flatten_ne_nil_iff hpieces).2 hne
  constructor
  case inner_quote => exact fun front back => escaped_of_quote hpieces
  case closing_eq =>
    have hs := (quotedBody_of_pieces hpieces).splitQuoted rest
    simp [closing?_eq, hs]
  case bytes_eq =>
    have hquote : '"'.utf8Size = 1 := by decide
    have hsize : (Text.toBytes pieces.flatten).size + 2 =
        (Text.toBytes ('"' :: pieces.flatten ++ ['"'])).size := by
      rw [Text.size_toBytes_append, Text.size_toBytes_cons,
        Text.size_toBytes_cons, hquote, Text.toBytes_nil, ByteArray.size_empty]
      omega
    rw [Text.toBytes_append]
    exact ByteArray.extract_append_eq_left hsize
  case rounds_value => exact hvalue
  case rounds_span => exact hspan
  case backslashes_eq => exact hcolumns 0
  case not_dangling => exact hdangling
  case text_ne_nil => exact Token.unescape_ne_nil hbody

/-- The two scanners agree on every input. The first accepts exactly the inputs that start with a
quote, at least one piece and a quote; the decoder then starts its escapes at the backslashes that
start a piece. The first refuses an input that starts with no quote or with two, and one where no
closing quote stands behind the pieces. -/
theorem quoted_scanners_agree (input : Text) :
    (∀ lexeme rest, frontQuoted? input = some (lexeme, rest) ↔
      ∃ pieces, Quotes input lexeme rest pieces) ∧
    (∀ lexeme rest pieces, Quotes input lexeme rest pieces → ScannedAlike input lexeme pieces) ∧
    (frontQuoted? input = none ↔ input.head? ≠ some '"' ∨ (∃ rest, input = '"' :: '"' :: rest) ∨
      ¬ ∃ (pieces : List Text) (rest : Text), (∀ p ∈ pieces, BodyPiece p) ∧
        input = '"' :: pieces.flatten ++ '"' :: rest) ∧
    (input.head? = some '"' → first? input = frontQuoted? input) := by
  refine ⟨fun _ _ => frontQuoted?_eq_some_iff, fun _ _ _ => Quotes.scannedAlike,
    frontQuoted?_eq_none_iff, fun h => ?_⟩
  obtain ⟨rest, rfl⟩ := List.head?_eq_some_iff.1 h
  rfl

theorem quoted_scanners_agree_behind_digits :
    let pieces := ["\\x", "4", "1", "\\\"", "é", "\\1", "0", "1", "\\\\"].map String.toList
    let lexeme : Lexeme := ⟨.text, "A\"éA\\".toList, '"' :: pieces.flatten ++ ['"']⟩
    frontQuoted? (lexeme.span ++ ['b']) = some (lexeme, ['b']) ∧
      ScannedAlike (lexeme.span ++ ['b']) lexeme pieces ∧
      backslashes 0 pieces = [0, 4, 7, 11] ∧
      frontQuoted? "\"a\\\"".toList = none := by
  intro pieces lexeme
  have hpieces : ∀ p ∈ pieces, BodyPiece p := by
    have hplain : ∀ c ∈ ['4', '1', 'é', '0'], BodyPiece [c] :=
      fun c hc => .plain (by rintro rfl; simp at hc) (by rintro rfl; simp at hc)
    simp [pieces, BodyPiece.escaped, hplain]
  have hquotes : Quotes (lexeme.span ++ ['b']) lexeme ['b'] pieces :=
    ⟨by simp [pieces], hpieces, rfl, rfl⟩
  obtain ⟨haccept, halike, -⟩ := quoted_scanners_agree (lexeme.span ++ ['b'])
  exact ⟨(haccept _ _).2 ⟨pieces, hquotes⟩, halike _ _ _ hquotes, rfl, rfl⟩

end Lexeme

end FieldQuery
