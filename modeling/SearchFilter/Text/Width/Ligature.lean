import SearchFilter.Text.Width.Basic

/-!
# Ligatures

In some scripts neighbouring characters are written as one sign and take no more columns than a
part of them.  A `Ligature` is the right part of such a sign, as far as it has been met from the
right; `Ligature.before` says what one more character adds to it.
-/

namespace SearchFilter.Text

/-- The right part of a ligature; `joined` says whether a zero-width joiner stands to its left. -/
inductive Ligature where
  /-- An Arabic alef, which joins a lam. -/
  | alef
  /-- A Hebrew lamed; a joiner joins it to an alef. -/
  | lamed (joined : Bool)
  /-- A Buginese ya; a joiner joins it to the vowel sign i. -/
  | ya (joined : Bool)
  /-- A Buginese ya and the vowel sign i, which join the letter a. -/
  | signedYa
  /-- A Tifinagh consonant; a joiner joins it to another one. -/
  | tifinagh (joined : Bool)
  /-- A Tifinagh consonant and the consonant joiner, which join another consonant. -/
  | boundTifinagh
  /-- One of the last two Lisu tones, which join one of the first four. -/
  | lisuTone
  /-- An Old Turkic i; a joiner joins it to the letter ec. -/
  | orkhonI (joined : Bool)
  /-- A Khmer letter, which a coeng sign puts below the letter before. -/
  | khmer
  /-- The Kirat Rai vowel sign e, which joins other vowel signs. -/
  | kiratE
  /-- The Kirat Rai vowel sign ai, which joins the vowel sign aa. -/
  | kiratAi
  deriving DecidableEq

/-- Whether a character is an Arabic letter of the group of alef. -/
def isAlef (c : Char) : Bool :=
  Ranges.mem c.toNat [(0x622, 0x623), (0x625, 0x625), (0x627, 0x627), (0x671, 0x673),
    (0x675, 0x675), (0x773, 0x774), (0x870, 0x882)]

/-- Whether a character is an Arabic letter of the group of lam. -/
def isLam (c : Char) : Bool :=
  Ranges.mem c.toNat [(0x644, 0x644), (0x6B5, 0x6B8), (0x76A, 0x76A), (0x8A6, 0x8A6), (0x8C7, 0x8C7)]

/-- Whether Arabic letters join across a character. -/
def joinsAcross (c : Char) : Bool :=
  isZeroWidth c && !separatingRanges.mem c.toNat

/-- Whether a character is a Tifinagh consonant. -/
def isTifinagh (c : Char) : Bool :=
  Ranges.mem c.toNat [(0x2D31, 0x2D65), (0x2D6F, 0x2D6F)]

/-- Whether a character is a Khmer letter that a coeng sign puts below another one. -/
def isKhmerSubjoined (c : Char) : Bool :=
  Ranges.mem c.toNat [(0x1780, 0x1782), (0x1784, 0x1787), (0x1789, 0x178C), (0x178E, 0x1793),
    (0x1795, 0x1798), (0x179B, 0x179D), (0x17A0, 0x17A0), (0x17A2, 0x17A2), (0x17A7, 0x17A7),
    (0x17AB, 0x17AC), (0x17AF, 0x17AF)]

/-- Whether most ligatures are written across a character. -/
def isLigatureTransparent (c : Char) : Bool :=
  Ranges.mem c.toNat [(0x34F, 0x34F), (0x17B4, 0x17B5), (0x180B, 0x180D), (0x180F, 0x180F),
    (0xFE00, 0xFE0F), (0xE0100, 0xE01EF)]

/-- The zero-width joiner. -/
def joiner : Char := '\u200d'

namespace Ligature

/-- The ligature that a character may end. -/
def ending? (c : Char) : Option Ligature :=
  if isAlef c then some alef
  else if c = '\u05dc' then some (lamed false)
  else if c = '\u1a10' then some (ya false)
  else if isTifinagh c then some (tifinagh false)
  else if c = '\ua4fc' ∨ c = '\ua4fd' then some lisuTone
  else if c.toNat = 0x10C03 then some (orkhonI false)
  else if isKhmerSubjoined c then some khmer
  else if c.toNat = 0x16D67 then some kiratE
  else if c.toNat = 0x16D68 then some kiratAi
  else none

/-- Whether a selector of a form may stand inside the ligature. -/
def admitsSelectors : Ligature → Bool
  | kiratE | kiratAi => false
  | _ => true

/-- Whether joiners and characters without a sign of their own may stand inside the ligature. -/
def isTransparent : Ligature → Bool
  | alef | kiratE | kiratAi => false
  | _ => true

/-- The ligature behind a zero-width joiner. -/
def join : Ligature → Ligature
  | lamed _ => lamed true
  | ya _ => ya true
  | tifinagh _ => tifinagh true
  | orkhonI _ => orkhonI true
  | l => l

/-- The columns that a letter or a sign to the left adds, and the ligature that goes on behind it,
if the letter is a part of the ligature. -/
def part? (c : Char) : Ligature → Option (Int × Option Ligature)
  | alef =>
    if isLam c then some (0, none)
    else if joinsAcross c then some (0, some alef)
    else none
  | lamed joined => if joined ∧ c = '\u05d0' then some (0, none) else none
  | ya joined => if joined ∧ c = '\u1a17' then some (0, some signedYa) else none
  | signedYa => if c = '\u1a15' then some (0, none) else none
  | tifinagh joined =>
    if c = '\u2d7f' then some (1, some boundTifinagh)
    else if joined ∧ isTifinagh c then some (0, none)
    else none
  | boundTifinagh => if isTifinagh c then some (-1, none) else none
  | lisuTone => if '\ua4f8' ≤ c ∧ c ≤ '\ua4fb' then some (0, none) else none
  | orkhonI joined => if joined ∧ c.toNat = 0x10C32 then some (0, none) else none
  | khmer => if c = '\u17d2' then some (-1, none) else none
  | kiratE =>
    if c.toNat = 0x16D63 ∨ c.toNat = 0x16D69 then some (0, none)
    else if c.toNat = 0x16D67 then some (0, some kiratAi)
    else if c.toNat = 0x16D68 then some (1, some kiratE)
    else none
  | kiratAi => if c.toNat = 0x16D63 then some (0, none) else none

/-- The columns that a character to the left adds, and the ligature that goes on behind it, if the
character stands inside the ligature. -/
def before (l : Ligature) (c : Char) : Option (Int × Option Ligature) :=
  if l.isTransparent && c == joiner then some (0, some l.join)
  else if l.isTransparent && isLigatureTransparent c then some (0, some l)
  else l.part? c

end Ligature
end SearchFilter.Text
