import SearchFilter.Proofs.Escape.Spellings
import SearchFilter.Proofs.Text.AsciiCase

/-! # The case of ASCII letters in values

The digits of an escape are read in either case, so a change of case in a value changes its bytes
only where letters stand for themselves, and there it changes the case of the byte
(`map_asciiLowerByte_valueBytes`).  The bytes of ASCII characters are read one by one, whatever
stands around them, so the texts that the two values denote differ in the case of ASCII letters only
(`asciiLower_decode_asciiLower`). -/

namespace SearchFilter

/-! ### Digits -/

namespace Text

theorem hexDigit?_toLower (c : Char) : hexDigit? c.toLower = hexDigit? c :=
  apply_toLower (by decide) c

theorem hexPair?_toLower (high low : Char) :
    hexPair? high.toLower low.toLower = hexPair? high low := by
  rw [hexPair?, hexPair?, hexDigit?_toLower, hexDigit?_toLower]

theorem startsWithPair_asciiLower {s : Text} :
    StartsWithPair (asciiLower s) ↔ StartsWithPair s := by
  match s with
  | [] => rfl
  | [_] => simp [StartsWithPair]
  | high :: low :: s =>
      rw [asciiLower_cons, asciiLower_cons, startsWithPair_cons_cons, startsWithPair_cons_cons]
      simp only [exists_isHexDigit_iff, hexDigit?_toLower]

end Text

/-! ### Bytes -/

/-- The byte of an ASCII capital becomes that of the small letter. -/
def asciiLowerByte (b : UInt8) : UInt8 :=
  if 0x41 ≤ b ∧ b ≤ 0x5A then b + 0x20 else b

theorem map_asciiLowerByte_utf8EncodeChar (c : Char) :
    (String.utf8EncodeChar c.toLower).map asciiLowerByte =
      (String.utf8EncodeChar c).map asciiLowerByte :=
  Text.apply_toLower (g := fun c => (String.utf8EncodeChar c).map asciiLowerByte) (by decide) c

theorem map_asciiLowerByte_valueBytes_raw {c : Char} {s : Text}
    (hc : c = '\\' → ¬ Text.StartsWithPair s)
    (ih : (valueBytes (Text.asciiLower s)).map asciiLowerByte =
      (valueBytes s).map asciiLowerByte) :
    (valueBytes (Text.asciiLower (c :: s))).map asciiLowerByte =
      (valueBytes (c :: s)).map asciiLowerByte := by
  have hc' : c.toLower = '\\' → ¬ Text.StartsWithPair (Text.asciiLower s) := by
    rw [Text.toLower_eq_iff (by decide), Text.startsWithPair_asciiLower]
    exact hc
  rw [Text.asciiLower_cons, valueBytes_raw hc', valueBytes_raw hc, List.map_append,
    List.map_append, ih, map_asciiLowerByte_utf8EncodeChar]

theorem map_asciiLowerByte_valueBytes (value : Text) :
    (valueBytes (Text.asciiLower value)).map asciiLowerByte =
      (valueBytes value).map asciiLowerByte := by
  induction value using valueBytes.induct with
  | case1 high low s n hpair ih =>
      have hback : '\\'.toLower = '\\' := by decide
      have hpair' : Text.hexPair? high.toLower low.toLower = some n := by
        rw [Text.hexPair?_toLower, hpair]
      simp only [Text.asciiLower_cons, hback, valueBytes, hpair, hpair', List.map_cons, ih]
  | case2 high low s hpair ih =>
      exact map_asciiLowerByte_valueBytes_raw (fun _ => Text.hexPair?_eq_none_iff.mp hpair) ih
  | case3 c s hother ih =>
      refine map_asciiLowerByte_valueBytes_raw ?_ ih
      rintro hc ⟨high, low, rest, hs, -⟩
      exact hother high low rest hc hs
  | case4 => rfl

/-! ### Reading bytes -/

/-- A byte below `80` is an ASCII character, in either case. -/
theorem exists_utf8EncodeChar_of_ascii {b : UInt8} (hb : b.toNat < 0x80) :
    ∃ c : Char, c.toNat < 0x80 ∧ String.utf8EncodeChar c = [b] ∧
      c.toLower.toNat < 0x80 ∧ String.utf8EncodeChar c.toLower = [asciiLowerByte b] := by
  have htable : ∀ n < 0x80, (Char.ofNat n).toNat < 0x80 ∧
      String.utf8EncodeChar (Char.ofNat n) = [UInt8.ofNat n] ∧
      (Char.ofNat n).toLower.toNat < 0x80 ∧
      String.utf8EncodeChar (Char.ofNat n).toLower = [asciiLowerByte (UInt8.ofNat n)] := by
    decide
  have h := htable b.toNat hb
  rw [UInt8.ofNat_toNat] at h
  exact ⟨Char.ofNat b.toNat, h⟩

theorem asciiLowerByte_of_wide {b : UInt8} (hb : 0x80 ≤ b.toNat) : asciiLowerByte b = b := by
  refine if_neg fun h => ?_
  have hle : b.toNat ≤ 0x5A := h.2
  omega

theorem asciiLower_ofUtf8Lossy_map {pending : Option Text.Pending}
    (hpending : ∀ p, pending = some p → 0x80 ≤ p.least) (bytes : List UInt8) :
    Text.asciiLower (Text.ofUtf8Lossy pending (bytes.map asciiLowerByte)) =
      Text.asciiLower (Text.ofUtf8Lossy pending bytes) := by
  induction bytes generalizing pending with
  | nil => rfl
  | cons b bytes ih =>
      rw [List.map_cons]
      by_cases hb : b.toNat < 0x80
      · -- an ASCII byte is read by itself, after what is unfinished before it
        obtain ⟨c, hc, hcb, hd, hdb⟩ := exists_utf8EncodeChar_of_ascii hb
        have hread := fun rest => Text.ofUtf8Lossy_append_ascii hc hpending [] rest
        have hread' := fun rest => Text.ofUtf8Lossy_append_ascii hd hpending [] rest
        have hlower : c.toLower.toLower = c.toLower := Text.apply_toLower (by decide) c
        simp only [hcb, hdb, List.nil_append, List.singleton_append] at hread hread'
        rw [hread, hread', Text.asciiLower_append, Text.asciiLower_append, Text.asciiLower_cons,
          Text.asciiLower_cons, hlower, ih (by simp)]
      · obtain ⟨out, next, hnext, hout⟩ := Text.ofUtf8Lossy_step pending b
        rw [asciiLowerByte_of_wide (Nat.le_of_not_lt hb), hout, hout, Text.asciiLower_append,
          Text.asciiLower_append, ih hnext]

/-! ### Decoding -/

theorem asciiLower_decode_asciiLower (value : Text) :
    Text.asciiLower (decode (Text.asciiLower value)) = Text.asciiLower (decode value) := by
  have hnone : ∀ p, (none : Option Text.Pending) = some p → 0x80 ≤ p.least := by simp
  rw [decode, ← asciiLower_ofUtf8Lossy_map hnone, map_asciiLowerByte_valueBytes,
    asciiLower_ofUtf8Lossy_map hnone, decode]

/-- What disregards the case of ASCII letters in a text disregards it in a value for this text. -/
theorem apply_decode_asciiLower {α : Type} {g : Text → α}
    (hg : ∀ s, g (Text.asciiLower s) = g s) (value : Text) :
    g (decode (Text.asciiLower value)) = g (decode value) := by
  rw [← hg, asciiLower_decode_asciiLower, hg]

end SearchFilter
