import SearchFilter.Text.Width.Ligature

/-!
# Sequences of emoji

Several characters may be shown as one emoji: emoji held together by zero-width joiners, an emoji
and its skin tone, the two letters of a flag, or a flag and the tags of a region.  An `EmojiTail` is
the right part of such a sequence, as far as it has been met from the right; `EmojiTail.before` says
what one more character adds to it.

Two letters make a flag only if they are counted from the left.  A row of letters without a joiner
takes two columns for each two of them in either way; in one that a joiner ends, the last flag
belongs to the emoji behind the joiner, so that the columns depend on how many letters there are.
-/

namespace SearchFilter.Text

/-- Whether a character is one of the letters that make flags. -/
def isFlagLetter (c : Char) : Bool :=
  0x1F1E6 ≤ c.toNat && c.toNat ≤ 0x1F1FF

/-- Whether a character is one of the five skin tones. -/
def isSkinTone (c : Char) : Bool :=
  0x1F3FB ≤ c.toNat && c.toNat ≤ 0x1F3FF

/-- Whether a character is shown as an emoji unless a selector says otherwise. -/
def isEmoji (c : Char) : Bool :=
  emojiPresentationRanges.mem c.toNat

/-- Whether a character is a tag for a letter. -/
def isTagLetter (c : Char) : Bool :=
  0xE0061 ≤ c.toNat && c.toNat ≤ 0xE007A

/-- Whether a character is a tag for a digit. -/
def isTagDigit (c : Char) : Bool :=
  0xE0030 ≤ c.toNat && c.toNat ≤ 0xE0039

/-- The tag that ends a row of tags. -/
def finalTag : Nat := 0xE007F

/-- The flag to which tags belong. -/
def blackFlag : Nat := 0x1F3F4

/-- The right part of a sequence of emoji. -/
inductive EmojiTail where
  | emoji
  | skinTone
  /-- One letter of a flag. -/
  | flagLetter
  /-- Two letters of flags or more. -/
  | flagLetters
  /-- A joiner before more emoji. -/
  | joined
  /-- An enclosing keycap before a joiner. -/
  | joinedKeycap
  /-- One letter of a flag before a joiner. -/
  | joinedLetter
  /-- An even number of letters before a joiner. -/
  | joinedEven
  /-- An odd number of letters before a joiner, three or more. -/
  | joinedOdd
  /-- Tags for letters, from the right, behind the final tag before a joiner. -/
  | tagLetters (count : Nat)
  /-- Tags for digits, from the right, behind the other tags. -/
  | tagDigits (count : Nat)
  deriving DecidableEq

namespace EmojiTail

/-- The sequence that a character may end. -/
def ending? (c : Char) : Option EmojiTail :=
  if isFlagLetter c then some flagLetter
  else if isSkinTone c then some skinTone
  else if isEmoji c then some emoji
  else none

/-- Whether a joiner holds the sequence and the emoji to its left together. -/
def isJoined : EmojiTail → Bool
  | joined | joinedKeycap => true
  | _ => false

/-- The joiner to the left of a whole emoji. -/
def join? (c : Char) : Option (Int × EmojiTail) :=
  if c = joiner then some (0, joined) else none

/-- The columns that a character to the left adds, and the sequence that goes on behind it, if the
character belongs to the sequence. -/
def before (c : Char) : EmojiTail → Option (Int × EmojiTail)
  | emoji => join? c
  | skinTone => if emojiModifierBaseRanges.mem c.toNat then some (0, emoji) else join? c
  | flagLetter => if isFlagLetter c then some (1, flagLetters) else none
  | flagLetters => if isFlagLetter c then some (1, flagLetters) else join? c
  | joined =>
    if c = '\u20e3' then some (0, joinedKeycap)
    else if isFlagLetter c then some (1, joinedLetter)
    else if isSkinTone c then some (0, skinTone)
    else if c.toNat = finalTag then some (0, tagLetters 0)
    else if isEmoji c then some (0, emoji)
    else none
  | joinedKeycap => none
  | joinedLetter => if isFlagLetter c then some (-1, joinedEven) else none
  | joinedEven => if isFlagLetter c then some (3, joinedOdd) else join? c
  | joinedOdd => if isFlagLetter c then some (-1, joinedEven) else join? c
  | tagLetters n =>
    if isTagLetter c ∧ n < 6 then some (0, tagLetters (n + 1))
    else if isTagDigit c ∧ n < 5 then some (0, tagDigits 1)
    else if c.toNat = blackFlag ∧ 3 ≤ n then some (0, emoji)
    else none
  | tagDigits n =>
    if isTagDigit c ∧ n < 3 then some (0, tagDigits (n + 1))
    else if c.toNat = blackFlag ∧ n = 3 then some (0, emoji)
    else none

end EmojiTail
end SearchFilter.Text
