import FieldQuery.Unicode.Width
import FieldQuery.Unicode.Emoji
set_option autoImplicit false

/-! Letters that are drawn in one piece with the letter in front of them, so that both together take
the cells of one. A ligature is read from its right end. -/

namespace FieldQuery.Unicode

/-- The right end of a ligature, as far as it has been read. `joined` says that U+200D stands in
front of it. -/
inductive Ligature where
  | alef
  /-- A Hebrew lamed, for an alef. -/
  | lamed (joined : Bool)
  /-- A Khmer letter that the sign U+17D2 puts below another. -/
  | khmerLetter
  /-- A Buginese ya, for the vowel sign i. -/
  | ya (joined : Bool)
  /-- That sign with its ya, for the letter a. -/
  | vowelAndYa
  /-- A Tifinagh consonant, for the sign U+2D7F or another consonant. -/
  | tifinagh (joined : Bool)
  /-- That sign with its consonant, for another consonant. -/
  | signAndTifinagh
  | lisuTone
  | orkhonI (joined : Bool)
  | kiratE
  | kiratAi
  deriving DecidableEq, Repr

def isAlef (n : Nat) : Bool :=
  covers [(0x622, 0x623), (0x625, 0x625), (0x627, 0x627), (0x671, 0x673), (0x675, 0x675),
    (0x773, 0x774), (0x870, 0x882)] n

def isLam (n : Nat) : Bool :=
  covers [(0x644, 0x644), (0x6b5, 0x6b8), (0x76a, 0x76a), (0x8a6, 0x8a6), (0x8c7, 0x8c7)] n

def isSubjoinable (n : Nat) : Bool :=
  covers [(0x1780, 0x1782), (0x1784, 0x1787), (0x1789, 0x178c), (0x178e, 0x1793),
    (0x1795, 0x1798), (0x179b, 0x179d), (0x17a0, 0x17a0), (0x17a2, 0x17a2), (0x17a7, 0x17a7),
    (0x17ab, 0x17ac), (0x17af, 0x17af)] n

def isTifinagh (n : Nat) : Bool := covers [(0x2d31, 0x2d65), (0x2d6f, 0x2d6f)] n

/-- Code points without width that keep a lam and an alef apart, ascending: all that are no marks or
format characters, and the isolates and joiners. -/
def joinBreakingRanges : List (Nat × Nat) := [
    (0x605, 0x605), (0x890, 0x891), (0x8e2, 0x8e2), (0x9be, 0x9be), (0x9d7, 0x9d7),
    (0xb3e, 0xb3e), (0xb57, 0xb57), (0xbbe, 0xbbe), (0xbd7, 0xbd7), (0xcc0, 0xcc0),
    (0xcc2, 0xcc2), (0xcc7, 0xcc8), (0xcca, 0xccb), (0xcd5, 0xcd6), (0xd3e, 0xd3e),
    (0xd4e, 0xd4e), (0xd57, 0xd57), (0xdcf, 0xdcf), (0xddf, 0xddf), (0x1160, 0x11ff),
    (0x1715, 0x1715), (0x1734, 0x1734), (0x180e, 0x180e), (0x1b35, 0x1b35), (0x1b3b, 0x1b3b),
    (0x1b3d, 0x1b3d), (0x1b43, 0x1b44), (0x1baa, 0x1baa), (0x1bf2, 0x1bf3), (0x200c, 0x200d),
    (0x2065, 0x2069), (0x302e, 0x302f), (0x3164, 0x3164), (0xa8fa, 0xa8fa), (0xa953, 0xa953),
    (0xa9c0, 0xa9c0), (0xd7b0, 0xd7c6), (0xd7cb, 0xd7fb), (0xffa0, 0xffa0), (0xfff0, 0xfff8),
    (0x111c0, 0x111c0), (0x111c2, 0x111c3), (0x11235, 0x11235), (0x1133e, 0x1133e),
    (0x1134d, 0x1134d), (0x11357, 0x11357), (0x113b8, 0x113b8), (0x113c2, 0x113c2),
    (0x113c5, 0x113c5), (0x113c7, 0x113c9), (0x113cf, 0x113cf), (0x113d1, 0x113d1),
    (0x114b0, 0x114b0), (0x114bd, 0x114bd), (0x115af, 0x115af), (0x116b6, 0x116b6),
    (0x11930, 0x11930), (0x1193d, 0x1193d), (0x1193f, 0x1193f), (0x11941, 0x11941),
    (0x11a3a, 0x11a3a), (0x11a84, 0x11a89), (0x11d46, 0x11d46), (0x11f02, 0x11f02),
    (0x11f41, 0x11f41), (0x16ff0, 0x16ff1), (0x1d165, 0x1d166), (0x1d16d, 0x1d172),
    (0xe0000, 0xe0000), (0xe0002, 0xe001f), (0xe0080, 0xe00ff), (0xe01f0, 0xe0fff)]

def isJoinTransparent (n : Nat) : Bool :=
  charWidth n = 0 && !covers joinBreakingRanges n

/-- Characters without a look of their own, which may stand inside the other ligatures. -/
def isLigatureTransparent (n : Nat) : Bool :=
  covers [(0x34f, 0x34f), (0x17b4, 0x17b5), (0x180b, 0x180d), (0x180f, 0x180f), (0xfe00, 0xfe0f),
    (0xe0100, 0xe01ef)] n

namespace Ligature

def ofChar? (n : Nat) : Option Ligature :=
  if isAlef n then some .alef
  else if n = 0x5dc then some (.lamed false)
  else if isSubjoinable n then some .khmerLetter
  else if n = 0x1a10 then some (.ya false)
  else if isTifinagh n then some (.tifinagh false)
  else if n = 0xa4fc ∨ n = 0xa4fd then some .lisuTone
  else if n = 0x10c03 then some (.orkhonI false)
  else if n = 0x16d67 then some .kiratE
  else if n = 0x16d68 then some .kiratAi
  else none

/-- A ligature with the joiner in front of it. One that takes no joiner ends there. -/
def behindJoiner? : Ligature → Option Ligature
  | .lamed _ => some (.lamed true)
  | .ya _ => some (.ya true)
  | .tifinagh _ => some (.tifinagh true)
  | .orkhonI _ => some (.orkhonI true)
  | _ => none

def letter? : Ligature → Nat → Option (Int × Option Ligature)
  | .alef, n => if isLam n then some (0, none) else none
  | .lamed true, 0x5d0 => some (0, none)
  | .khmerLetter, 0x17d2 => some (-1, none)
  | .ya true, 0x1a17 => some (0, some .vowelAndYa)
  | .vowelAndYa, 0x1a15 => some (0, none)
  | .tifinagh joined, n =>
    if n = 0x2d7f then some (1, some .signAndTifinagh)
    else if joined ∧ isTifinagh n then some (0, none)
    else none
  | .signAndTifinagh, n => if isTifinagh n then some (-1, none) else none
  | .lisuTone, n => if 0xa4f8 ≤ n ∧ n ≤ 0xa4fb then some (0, none) else none
  | .orkhonI true, 0x10c32 => some (0, none)
  | .kiratE, 0x16d63 => some (0, none)
  | .kiratE, 0x16d67 => some (0, some .kiratAi)
  | .kiratE, 0x16d68 => some (1, some .kiratE)
  | .kiratE, 0x16d69 => some (0, none)
  | .kiratAi, 0x16d63 => some (0, none)
  | _, _ => none

/-- The cells that a character in front adds if it belongs to the ligature or may stand inside it,
and what can still follow. -/
def extend? : Ligature → Nat → Option (Int × Option Ligature)
  | .alef, n => if isJoinTransparent n then some (0, some .alef) else letter? .alef n
  | ligature, n =>
    if n = zeroWidthJoiner then some (0, ligature.behindJoiner?)
    else if isLigatureTransparent n then some (0, some ligature)
    else ligature.letter? n

end Ligature

end FieldQuery.Unicode
