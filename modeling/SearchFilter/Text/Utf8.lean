import SearchFilter.Text.Basic

/-!
# UTF-8

`toUtf8` writes a text as bytes.  `ofUtf8Lossy` reads any bytes: what is not well formed becomes
the replacement character, one for each maximal beginning of a character that breaks off and one
for each byte that begins none.  `ofUtf8?` reads well-formed bytes only.

Reading keeps what is known of an unfinished character (`Pending`): how many bytes it still needs,
which bytes may come next, and its bits so far.  Only the second byte of a character is restricted
further than to `80`–`BF`; the restriction excludes overlong forms, surrogates and numbers beyond
the last code point.
-/

namespace SearchFilter.Text

def toUtf8 (s : Text) : List UInt8 :=
  s.flatMap String.utf8EncodeChar

/-- The character that stands for bytes that are not well formed. -/
def replacement : Char := '\ufffd'

/-- A character whose first bytes have been read. -/
structure Pending where
  /-- How many bytes follow the next one. -/
  more : Nat
  /-- The least byte that continues the character. -/
  least : Nat
  /-- The greatest byte that continues the character. -/
  greatest : Nat
  /-- The bits of the bytes read so far. -/
  bits : Nat

/-- What a byte means where a character begins. -/
inductive LeadByte where
  | whole (c : Char)
  | first (p : Pending)
  | invalid

/-- The meaning of a byte where a character begins. -/
def leadByte (b : Nat) : LeadByte :=
  if b < 0x80 then .whole (Char.ofNat b)
  else if b < 0xC2 then .invalid
  else if b < 0xE0 then .first ⟨0, 0x80, 0xBF, b - 0xC0⟩
  else if b < 0xF0 then
    .first ⟨1, if b = 0xE0 then 0xA0 else 0x80, if b = 0xED then 0x9F else 0xBF, b - 0xE0⟩
  else if b < 0xF5 then
    .first ⟨2, if b = 0xF0 then 0x90 else 0x80, if b = 0xF4 then 0x8F else 0xBF, b - 0xF0⟩
  else .invalid

/-- Whether a byte continues the pending character. -/
def Pending.accepts (p : Pending) (b : Nat) : Bool :=
  p.least ≤ b && b ≤ p.greatest

/-- The bits of the pending character with those of one more byte. -/
def Pending.extended (p : Pending) (b : Nat) : Nat :=
  64 * p.bits + (b - 0x80)

/-- Reading bytes with an unfinished character before them; everything malformed becomes the
replacement character. -/
def ofUtf8Lossy (pending : Option Pending) : List UInt8 → Text
  | [] => if pending.isSome then [replacement] else []
  | b :: bytes =>
    let start : Unit → Text := fun _ =>
      match leadByte b.toNat with
      | .whole c => c :: ofUtf8Lossy none bytes
      | .first p => ofUtf8Lossy (some p) bytes
      | .invalid => replacement :: ofUtf8Lossy none bytes
    match pending with
    | none => start ()
    | some p =>
      if p.accepts b.toNat then
        match p.more with
        | 0 => Char.ofNat (p.extended b.toNat) :: ofUtf8Lossy none bytes
        | more + 1 => ofUtf8Lossy (some ⟨more, 0x80, 0xBF, p.extended b.toNat⟩) bytes
      else replacement :: start ()

/-- Reading bytes with an unfinished character before them; nothing malformed is accepted. -/
def ofUtf8From? (pending : Option Pending) : List UInt8 → Option Text
  | [] => if pending.isSome then none else some []
  | b :: bytes =>
    match pending with
    | none =>
      match leadByte b.toNat with
      | .whole c => (ofUtf8From? none bytes).map (c :: ·)
      | .first p => ofUtf8From? (some p) bytes
      | .invalid => none
    | some p =>
      if p.accepts b.toNat then
        match p.more with
        | 0 => (ofUtf8From? none bytes).map (Char.ofNat (p.extended b.toNat) :: ·)
        | more + 1 => ofUtf8From? (some ⟨more, 0x80, 0xBF, p.extended b.toNat⟩) bytes
      else none

/-- The text whose UTF-8 form the bytes are, if they are well formed. -/
def ofUtf8? (bytes : List UInt8) : Option Text :=
  ofUtf8From? none bytes

end SearchFilter.Text
