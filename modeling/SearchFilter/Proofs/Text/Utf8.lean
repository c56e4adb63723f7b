import Mathlib.Tactic.SplitIfs
import SearchFilter.Text.Utf8

/-! # Reading UTF-8 back

The bytes of a text are read as that text, whatever bytes stand behind them
(`ofUtf8Lossy_toUtf8_append`).  A character takes one to four bytes: the first one tells how many,
each further one adds six bits (`ofUtf8Lossy_more`), and the last one completes the character
(`ofUtf8Lossy_last`).  The reader gives at least one character for any byte, so nothing is read from
no bytes only (`ofUtf8Lossy_eq_nil_iff`).  What one byte does is fixed by the character that is
unfinished before it (`ofUtf8Lossy_step`).  An ASCII character never continues another one, so the
bytes on its two sides are read apart from each other (`ofUtf8Lossy_append_ascii`). -/

namespace SearchFilter.Text

variable {b b₀ b₁ b₂ b₃ : UInt8} {bytes : List UInt8} {p : Pending} {c : Char}

/-! ### One byte -/

theorem ofUtf8Lossy_whole (h : leadByte b.toNat = .whole c) :
    ofUtf8Lossy none (b :: bytes) = c :: ofUtf8Lossy none bytes := by
  simp only [ofUtf8Lossy, h]

theorem ofUtf8Lossy_first (h : leadByte b.toNat = .first p) :
    ofUtf8Lossy none (b :: bytes) = ofUtf8Lossy (some p) bytes := by
  simp only [ofUtf8Lossy, h]

theorem Pending.accepts_iff {n : Nat} : p.accepts n = true ↔ p.least ≤ n ∧ n ≤ p.greatest := by
  simp [Pending.accepts]

theorem Pending.extended_of_bits {n : Nat} (h : p.bits = n / 64) :
    p.extended (n % 64 + 128) = n := by
  unfold Pending.extended
  omega

/-- A byte that continues a character adds the six low bits of what is known then. -/
theorem ofUtf8Lossy_more {m l g n : Nat} (hb : b.toNat = n % 64 + 128) (hl : l ≤ n % 64 + 128)
    (hg : n % 64 + 128 ≤ g) :
    ofUtf8Lossy (some ⟨m + 1, l, g, n / 64⟩) (b :: bytes) =
      ofUtf8Lossy (some ⟨m, 0x80, 0xBF, n⟩) bytes := by
  have haccepts : Pending.accepts ⟨m + 1, l, g, n / 64⟩ (n % 64 + 128) = true :=
    Pending.accepts_iff.mpr ⟨hl, hg⟩
  have hextended : Pending.extended ⟨m + 1, l, g, n / 64⟩ (n % 64 + 128) = n :=
    Pending.extended_of_bits rfl
  simp only [ofUtf8Lossy, hb, haccepts, hextended, if_true]

theorem ofUtf8Lossy_last {l g : Nat} (hb : b.toNat = c.toNat % 64 + 128)
    (hl : l ≤ c.toNat % 64 + 128) (hg : c.toNat % 64 + 128 ≤ g) :
    ofUtf8Lossy (some ⟨0, l, g, c.toNat / 64⟩) (b :: bytes) = c :: ofUtf8Lossy none bytes := by
  have haccepts : Pending.accepts ⟨0, l, g, c.toNat / 64⟩ (c.toNat % 64 + 128) = true :=
    Pending.accepts_iff.mpr ⟨hl, hg⟩
  have hextended : Pending.extended ⟨0, l, g, c.toNat / 64⟩ (c.toNat % 64 + 128) = c.toNat :=
    Pending.extended_of_bits rfl
  simp only [ofUtf8Lossy, hb, haccepts, hextended, if_true, Char.ofNat_toNat]

/-! ### One character -/

theorem ofUtf8Lossy_one (h₀ : b₀.toNat = c.toNat) (hc : c.toNat < 0x80) :
    ofUtf8Lossy none (b₀ :: bytes) = c :: ofUtf8Lossy none bytes := by
  refine ofUtf8Lossy_whole ?_
  rw [h₀, leadByte, if_pos hc, Char.ofNat_toNat]

theorem ofUtf8Lossy_two (h₀ : b₀.toNat = c.toNat / 64 + 0xC0) (h₁ : b₁.toNat = c.toNat % 64 + 128)
    (hc : 0x80 ≤ c.toNat) (hc' : c.toNat < 0x800) :
    ofUtf8Lossy none (b₀ :: b₁ :: bytes) = c :: ofUtf8Lossy none bytes := by
  have hlead : leadByte b₀.toNat = .first ⟨0, 0x80, 0xBF, c.toNat / 64⟩ := by
    rw [h₀, leadByte, if_neg (by omega), if_neg (by omega), if_pos (by omega),
      Nat.add_sub_cancel]
  rw [ofUtf8Lossy_first hlead, ofUtf8Lossy_last h₁ (by omega) (by omega)]

/-- The restriction of the second byte excludes what would fit into two bytes, and surrogates. -/
theorem ofUtf8Lossy_three (h₀ : b₀.toNat = c.toNat / 64 / 64 + 0xE0)
    (h₁ : b₁.toNat = c.toNat / 64 % 64 + 128) (h₂ : b₂.toNat = c.toNat % 64 + 128)
    (hc : 0x800 ≤ c.toNat) (hc' : c.toNat < 0x10000) :
    ofUtf8Lossy none (b₀ :: b₁ :: b₂ :: bytes) = c :: ofUtf8Lossy none bytes := by
  have hvalid : c.toNat < 0xD800 ∨ (0xDFFF < c.toNat ∧ c.toNat < 0x110000) := c.valid
  obtain ⟨l, g, hlead, hl, hg⟩ : ∃ l g, leadByte b₀.toNat = .first ⟨1, l, g, c.toNat / 64 / 64⟩ ∧
      l ≤ c.toNat / 64 % 64 + 128 ∧ c.toNat / 64 % 64 + 128 ≤ g := by
    rw [h₀, leadByte, if_neg (by omega), if_neg (by omega), if_neg (by omega), if_pos (by omega),
      Nat.add_sub_cancel]
    refine ⟨_, _, rfl, ?_, ?_⟩
    · split_ifs <;> omega
    · split_ifs <;> omega
  rw [ofUtf8Lossy_first hlead, ofUtf8Lossy_more h₁ hl hg,
    ofUtf8Lossy_last h₂ (by omega) (by omega)]

/-- The restriction of the second byte excludes what would fit into three bytes, and what lies
beyond the last code point. -/
theorem ofUtf8Lossy_four (h₀ : b₀.toNat = c.toNat / 64 / 64 / 64 + 0xF0)
    (h₁ : b₁.toNat = c.toNat / 64 / 64 % 64 + 128) (h₂ : b₂.toNat = c.toNat / 64 % 64 + 128)
    (h₃ : b₃.toNat = c.toNat % 64 + 128) (hc : 0x10000 ≤ c.toNat) :
    ofUtf8Lossy none (b₀ :: b₁ :: b₂ :: b₃ :: bytes) = c :: ofUtf8Lossy none bytes := by
  have hvalid : c.toNat < 0xD800 ∨ (0xDFFF < c.toNat ∧ c.toNat < 0x110000) := c.valid
  obtain ⟨l, g, hlead, hl, hg⟩ : ∃ l g,
      leadByte b₀.toNat = .first ⟨2, l, g, c.toNat / 64 / 64 / 64⟩ ∧
      l ≤ c.toNat / 64 / 64 % 64 + 128 ∧ c.toNat / 64 / 64 % 64 + 128 ≤ g := by
    rw [h₀, leadByte, if_neg (by omega), if_neg (by omega), if_neg (by omega), if_neg (by omega),
      if_pos (by omega), Nat.add_sub_cancel]
    refine ⟨_, _, rfl, ?_, ?_⟩
    · split_ifs <;> omega
    · split_ifs <;> omega
  rw [ofUtf8Lossy_first hlead, ofUtf8Lossy_more h₁ hl hg,
    ofUtf8Lossy_more h₂ (by omega) (by omega), ofUtf8Lossy_last h₃ (by omega) (by omega)]

theorem ofUtf8Lossy_utf8EncodeChar_append (c : Char) (bytes : List UInt8) :
    ofUtf8Lossy none (String.utf8EncodeChar c ++ bytes) = c :: ofUtf8Lossy none bytes := by
  have hvalid : c.toNat < 0xD800 ∨ (0xDFFF < c.toNat ∧ c.toNat < 0x110000) := c.valid
  have hbyte : ∀ {n k : Nat}, n < 256 → n = k → (UInt8.ofNat n).toNat = k := by
    rintro n k hn rfl
    exact Nat.mod_eq_of_lt hn
  unfold String.utf8EncodeChar
  rw [show c.val.toNat = c.toNat from rfl]
  dsimp only
  split_ifs with h1 h2 h3
  · exact ofUtf8Lossy_one (hbyte (by omega) rfl) (by omega)
  · exact ofUtf8Lossy_two (hbyte (by omega) (by omega)) (hbyte (by omega) rfl) (by omega) (by omega)
  · exact ofUtf8Lossy_three (hbyte (by omega) (by omega)) (hbyte (by omega) rfl)
      (hbyte (by omega) rfl) (by omega) (by omega)
  · exact ofUtf8Lossy_four (hbyte (by omega) (by omega)) (hbyte (by omega) (by omega))
      (hbyte (by omega) rfl) (hbyte (by omega) rfl) (by omega)

/-! ### Texts -/

theorem ofUtf8Lossy_toUtf8_append (s : Text) (bytes : List UInt8) :
    ofUtf8Lossy none (toUtf8 s ++ bytes) = s ++ ofUtf8Lossy none bytes := by
  induction s with
  | nil => rfl
  | cons c s ih =>
      rw [toUtf8, List.flatMap_cons, List.append_assoc, ofUtf8Lossy_utf8EncodeChar_append,
        ← toUtf8, ih, List.cons_append]

theorem ofUtf8Lossy_toUtf8 (s : Text) : ofUtf8Lossy none (toUtf8 s) = s := by
  have h := ofUtf8Lossy_toUtf8_append s []
  rwa [List.append_nil, show ofUtf8Lossy none [] = [] from rfl, List.append_nil] at h

/-- Nothing is read from no bytes only: what breaks off is read as the replacement character. -/
theorem ofUtf8Lossy_eq_nil_iff {pending : Option Pending} :
    ofUtf8Lossy pending bytes = [] ↔ pending = none ∧ bytes = [] := by
  induction bytes generalizing pending with
  | nil => cases pending <;> simp [ofUtf8Lossy]
  | cons b bytes ih =>
      have hsome : ∀ p : Pending, ofUtf8Lossy (some p) bytes ≠ [] := fun p h => by
        simpa using ih.mp h
      simp only [reduceCtorEq, and_false, iff_false]
      unfold ofUtf8Lossy
      dsimp only
      split
      · cases leadByte b.toNat <;> simp [hsome]
      · rename_i p
        split
        · split <;> simp [hsome]
        · simp

/-! ### What breaks off -/

/-- A character that has begun goes on with a byte beyond ASCII. -/
theorem Pending.least_of_leadByte {n : Nat} (h : leadByte n = .first p) : 0x80 ≤ p.least := by
  unfold leadByte at h
  split_ifs at h <;> cases h <;> simp

/-- A byte that does not continue a character breaks it off and is read afresh. -/
theorem ofUtf8Lossy_of_not_accepts (h : p.accepts b.toNat = false) :
    ofUtf8Lossy (some p) (b :: bytes) = replacement :: ofUtf8Lossy none (b :: bytes) := by
  simp [ofUtf8Lossy, h]

theorem utf8EncodeChar_of_ascii (hc : c.toNat < 0x80) :
    ∃ b : UInt8, String.utf8EncodeChar c = [b] ∧ b.toNat = c.toNat := by
  have hsize : c.utf8Size = 1 := Char.utf8Size_eq_one_iff.mpr (Nat.le_of_lt_succ hc)
  refine ⟨c.val.toUInt8, String.utf8EncodeChar_eq_singleton hsize, ?_⟩
  have hbyte : c.toNat < 256 := by omega
  exact Nat.mod_eq_of_lt hbyte

/-- A byte adds some characters and leaves one unfinished or none, from where what follows is
read. -/
theorem ofUtf8Lossy_step (pending : Option Pending) (b : UInt8) :
    ∃ (out : Text) (next : Option Pending), (∀ p, next = some p → 0x80 ≤ p.least) ∧
      ∀ rest, ofUtf8Lossy pending (b :: rest) = out ++ ofUtf8Lossy next rest := by
  have hstart : ∃ (out : Text) (next : Option Pending), (∀ p, next = some p → 0x80 ≤ p.least) ∧
      ∀ rest, ofUtf8Lossy none (b :: rest) = out ++ ofUtf8Lossy next rest := by
    cases hlead : leadByte b.toNat with
    | whole c => exact ⟨[c], none, by simp, fun rest => ofUtf8Lossy_whole hlead⟩
    | invalid => exact ⟨[replacement], none, by simp, fun rest => by simp [ofUtf8Lossy, hlead]⟩
    | first p =>
        refine ⟨[], some p, fun q hq => ?_, fun rest => ofUtf8Lossy_first hlead⟩
        obtain rfl : p = q := Option.some.inj hq
        exact Pending.least_of_leadByte hlead
  cases pending with
  | none => exact hstart
  | some p =>
      cases haccepts : p.accepts b.toNat with
      | true =>
          cases hmore : p.more with
          | zero =>
              refine ⟨[Char.ofNat (p.extended b.toNat)], none, by simp, fun rest => ?_⟩
              simp [ofUtf8Lossy, haccepts, hmore]
          | succ more =>
              refine ⟨[], some ⟨more, 0x80, 0xBF, p.extended b.toNat⟩, ?_, fun rest => ?_⟩
              · rintro q hq
                obtain rfl := Option.some.inj hq
                exact Nat.le_refl _
              · simp [ofUtf8Lossy, haccepts, hmore]
      | false =>
          obtain ⟨out, next, hnext, hout⟩ := hstart
          refine ⟨replacement :: out, next, hnext, fun rest => ?_⟩
          rw [ofUtf8Lossy_of_not_accepts haccepts, hout, List.cons_append]

/-- An ASCII character is read as itself whatever stands before it: a character that is unfinished
there breaks off as it does at the end. -/
theorem ofUtf8Lossy_append_ascii {pending : Option Pending} (hc : c.toNat < 0x80)
    (hpending : ∀ p, pending = some p → 0x80 ≤ p.least) (bytes rest : List UInt8) :
    ofUtf8Lossy pending (bytes ++ (String.utf8EncodeChar c ++ rest)) =
      ofUtf8Lossy pending bytes ++ c :: ofUtf8Lossy none rest := by
  induction bytes generalizing pending with
  | nil =>
      have hread := ofUtf8Lossy_utf8EncodeChar_append c rest
      cases pending with
      | none => exact hread
      | some p =>
          obtain ⟨b, hb, hnat⟩ := utf8EncodeChar_of_ascii hc
          have hleast : 0x80 ≤ p.least := hpending p rfl
          have hrejects : p.accepts b.toNat = false := by
            rw [← Bool.not_eq_true, Pending.accepts_iff]
            omega
          rw [hb, List.singleton_append] at hread
          rw [hb, List.nil_append, List.singleton_append, ofUtf8Lossy_of_not_accepts hrejects,
            hread]
          rfl
  | cons b bytes ih =>
      obtain ⟨out, next, hnext, hout⟩ := ofUtf8Lossy_step pending b
      rw [List.cons_append, hout, hout, ih hnext, List.append_assoc]

end SearchFilter.Text
