import SearchFilter.Proofs.Escape
import SearchFilter.Proofs.Text.Hex

/-! # The spellings of a value

A text has many spellings as the value of a comparison: each of its characters stands there as it is
or as the escapes of its bytes, whose digits are of either case, and a backslash may stand there as
it is where no two digits follow (`Encodes`).  All spellings have the bytes of the text
(`Encodes.valueBytes_eq`), so each of them denotes the text (`decode_of_encodes`).  The escaped form
of a text is one of them (`encodes_escape`).

A character that can be neither a digit nor a part of an escape stands for itself, and what stands
on its two sides is decoded separately, even where that is not well formed (`decode_append_cons`). -/

namespace SearchFilter

variable {value s t : Text} {c : Char}

/-! ### Spellings -/

/-- Bytes as escapes one after another, each of the digits in either case. -/
inductive EncodesBytes : Text → List UInt8 → Prop
  | nil : EncodesBytes [] []
  | cons {b : UInt8} {bytes : List UInt8} {high low : Char} {s : Text} :
      Text.IsHexDigit (b.toNat / 16) high → Text.IsHexDigit (b.toNat % 16) low →
        EncodesBytes s bytes → EncodesBytes ('\\' :: high :: low :: s) (b :: bytes)

/-- The value spells the text: every character is written as it is or as the escapes of the bytes of
its UTF-8 form, and no backslash that is written as it is has two digits behind it. -/
inductive Encodes : (value s : Text) → Prop
  | nil : Encodes [] []
  | raw {c : Char} {value s : Text} : (c = '\\' → ¬ Text.StartsWithPair value) →
      Encodes value s → Encodes (c :: value) (c :: s)
  | escaped {c : Char} {form value s : Text} : EncodesBytes form (String.utf8EncodeChar c) →
      Encodes value s → Encodes (form ++ value) (c :: s)

theorem valueBytes_backslash (h : ¬ Text.StartsWithPair value) :
    valueBytes ('\\' :: value) = String.utf8EncodeChar '\\' ++ valueBytes value := by
  match value with
  | [] => rfl
  | [_] => rfl
  | high :: low :: value =>
      rw [valueBytes, Text.hexPair?_eq_none_iff.mpr h]

theorem valueBytes_raw (h : c = '\\' → ¬ Text.StartsWithPair value) :
    valueBytes (c :: value) = String.utf8EncodeChar c ++ valueBytes value := by
  by_cases hc : c = '\\'
  · subst hc
    exact valueBytes_backslash (h rfl)
  · exact valueBytes_cons_of_ne hc value

theorem EncodesBytes.valueBytes_append {form : Text} {bytes : List UInt8}
    (h : EncodesBytes form bytes) (value : Text) :
    valueBytes (form ++ value) = bytes ++ valueBytes value := by
  induction h with
  | nil => rfl
  | @cons b bytes high low form hhigh hlow _ ih =>
      have hpair := Text.hexPair?_of_isHexDigit hhigh hlow
      simp only [List.cons_append, valueBytes, hpair, UInt8.ofNat_toNat, ih]

theorem Encodes.valueBytes_eq (h : Encodes value s) : valueBytes value = Text.toUtf8 s := by
  induction h with
  | nil => rfl
  | raw hc _ ih => rw [valueBytes_raw hc, ih, Text.toUtf8, Text.toUtf8, List.flatMap_cons]
  | escaped hform _ ih =>
      rw [hform.valueBytes_append, ih, Text.toUtf8, Text.toUtf8, List.flatMap_cons]

/-! ### The escaped form -/

/-- The form that escaping gives to a character is the escape of its only byte, or the character
itself, which is no backslash. -/
theorem encodes_escapeChar_append (c : Char) (h : Encodes value s) :
    Encodes (escapeChar c ++ value) (c :: s) := by
  have htriple : ∀ {b : UInt8} {high low : Char}, String.utf8EncodeChar c = [b] →
      Text.IsHexDigit (b.toNat / 16) high → Text.IsHexDigit (b.toNat % 16) low →
        Encodes (['\\', high, low] ++ value) (c :: s) := by
    intro b high low hb hhigh hlow
    refine .escaped ?_ h
    rw [hb]
    exact .cons hhigh hlow .nil
  unfold escapeChar
  split_ifs with h1 h2 h3 h4 h5
  · subst h1
    exact htriple (show _ = [0x5c] from rfl) (by decide) (by decide)
  · subst h2
    exact htriple (show _ = [0x2a] from rfl) (by decide) (by decide)
  · subst h3
    exact htriple (show _ = [0x28] from rfl) (by decide) (by decide)
  · subst h4
    exact htriple (show _ = [0x29] from rfl) (by decide) (by decide)
  · subst h5
    exact htriple (show _ = [0x00] from rfl) (by decide) (by decide)
  · exact .raw (fun hc => absurd hc h1) h

theorem encodes_escape (s : Text) : Encodes (escape s) s := by
  induction s with
  | nil => exact .nil
  | cons c s ih =>
      rw [escape_cons]
      exact encodes_escapeChar_append c ih

/-! ### Characters that stand for themselves -/

/-- A character that is no digit and begins no escape belongs to no escape. -/
theorem valueBytes_append_cons (hdigit : Text.hexDigit? c = none)
    (hc : c = '\\' → ¬ Text.StartsWithPair t) (s : Text) :
    valueBytes (s ++ c :: t) = valueBytes s ++ (String.utf8EncodeChar c ++ valueBytes t) := by
  fun_induction valueBytes s with
  | case1 high low s n hpair ih => simp [valueBytes, hpair, ih]
  | case2 high low s hpair ih =>
      have hstray : ¬ Text.StartsWithPair (high :: low :: s ++ c :: t) := by
        rw [Text.startsWithPair_append_cons hdigit]
        exact Text.hexPair?_eq_none_iff.mp hpair
      rw [List.cons_append, valueBytes_backslash hstray, ih, List.append_assoc]
  | case3 d s hother ih =>
      have hraw : d = '\\' → ¬ Text.StartsWithPair (s ++ c :: t) := by
        rw [Text.startsWithPair_append_cons hdigit]
        rintro hd ⟨high, low, rest, hs, -⟩
        exact hother high low rest hd hs
      rw [List.cons_append, valueBytes_raw hraw, ih, List.append_assoc]
  | case4 => exact valueBytes_raw hc

/-- The two sides of a character that stands for itself are decoded separately, well formed or
not. -/
theorem decode_append_cons (hascii : c.toNat < 0x80) (hdigit : Text.hexDigit? c = none)
    (hc : c = '\\' → ¬ Text.StartsWithPair t) (s : Text) :
    decode (s ++ c :: t) = decode s ++ c :: decode t := by
  rw [decode, valueBytes_append_cons hdigit hc,
    Text.ofUtf8Lossy_append_ascii hascii (by simp)]
  rfl

/-! ### Decoding -/

/-- **Every spelling is decoded**: all spellings of a text denote the text, whichever characters are
escaped and in whichever case the digits are written, and the escaped form of the text is one of
them.  A backslash that does not begin an escape is kept, at the end of a value too. -/
theorem decode_of_encodes :
    (∀ value s, Encodes value s → decode value = s) ∧
    (∀ s, Encodes (escape s) s ∧ decode (escape s) = s) ∧
    ∀ s t, ¬ Text.StartsWithPair t → decode (s ++ '\\' :: t) = decode s ++ '\\' :: decode t := by
  refine ⟨fun value s h => ?_, fun s => ⟨encodes_escape s, decode_escape s⟩, fun s t h => ?_⟩
  · rw [decode, h.valueBytes_eq, Text.ofUtf8Lossy_toUtf8]
  · exact decode_append_cons (by decide) (by decide) (fun _ => h) s

/-- A sign of three bytes with digits of both cases, a letter of two bytes as it is, an escaped
star, and backslashes before one digit, before an escape and in the last place. -/
theorem decode_of_encodes_mixed :
    let value : Text := ['\\', 'E', '2', '\\', '8', '2', '\\', 'a', 'C', '\\', '4', 'é',
      '\\', '2', 'A', '\\', '\\', '5', 'C', '\\']
    let s : Text := ['€', '\\', '4', 'é', '*', '\\', '\\', '\\']
    Encodes value s ∧ decode value = s ∧ decode (value ++ ['\\', '2']) = s ++ ['\\', '2'] := by
  intro value s
  have heuro : EncodesBytes ['\\', 'E', '2', '\\', '8', '2', '\\', 'a', 'C']
      (String.utf8EncodeChar '€') :=
    .cons (b := 0xE2) (by decide) (by decide) (.cons (b := 0x82) (by decide) (by decide)
      (.cons (b := 0xAC) (by decide) (by decide) .nil))
  have hstar : EncodesBytes ['\\', '2', 'A'] (String.utf8EncodeChar '*') :=
    .cons (b := 0x2A) (by decide) (by decide) .nil
  have hback : EncodesBytes ['\\', '5', 'C'] (String.utf8EncodeChar '\\') :=
    .cons (b := 0x5C) (by decide) (by decide) .nil
  have hlast : Encodes ['\\'] ['\\'] := .raw (by decide) .nil
  have hend := Encodes.escaped hstar (.raw (c := '\\') (by decide) (.escaped hback hlast))
  have hspells : Encodes value s :=
    Encodes.escaped heuro (.raw (by decide) (.raw (by decide) (.raw (by decide) hend)))
  obtain ⟨hdecode, -, hstray⟩ := decode_of_encodes
  refine ⟨hspells, hdecode value s hspells, ?_⟩
  rw [hstray value ['2'] (by decide), hdecode value s hspells]
  rfl

end SearchFilter
