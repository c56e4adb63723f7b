import Mathlib.Data.Nat.Digits.Defs
import SearchFilter.Json.Relaxed
import SearchFilter.Proofs.Number.Integers
import SearchFilter.Proofs.Text.Hex

/-! # Strings and integers read back

In a printed string a character is an escape that is read as the character, or the character itself
(`escapeChar_cases`); so one step of the reader takes up what one character is printed as
(`readQuoted_escapeChar_append`), and the quote at the end is the first that the reader meets.  A
printed integer does not begin with a zero unless it is zero, which relaxed JSON asks for, and ends
at the delimiter behind it (`readNumber_ofInt`). -/

namespace SearchFilter.Json.Relaxed

variable {c : Char} {k : Nat} {s t rest : Text}

/-! ### Strings -/

/-- A control character is printed with four digits, which are read as the character. -/
theorem readUnicodeEscape_hexDigits (hc : c.toNat < 0x20) (s : Text) :
    readUnicodeEscape (List.replicate (4 - (Text.hexDigits c.toNat).length) '0' ++
      Text.hexDigits c.toNat ++ s) = some (c, s) := by
  have htable : ∀ n < 0x20, List.replicate (4 - (Text.hexDigits n).length) '0' ++
      Text.hexDigits n = ['0', '0', (n / 16).digitChar, (n % 16).digitChar] := by decide
  have hdigit : ∀ {d}, d < 16 → Text.hexDigit? d.digitChar = some d := fun hd =>
    Text.hexDigit?_eq_some_iff.mpr ⟨hd, .inl rfl⟩
  have hzero : Text.hexDigit? '0' = some 0 := rfl
  have hread : Text.readHex 4 0 ('0' :: '0' :: (c.toNat / 16).digitChar ::
      (c.toNat % 16).digitChar :: s) = some (c.toNat, s) := by
    simp [Text.readHex, hzero, hdigit (show c.toNat / 16 < 16 by omega),
      hdigit (show c.toNat % 16 < 16 by omega), Nat.div_add_mod]
  rw [htable c.toNat hc]
  simp [readUnicodeEscape, hread, Char.ofNat_toNat, show ¬ 0xD800 ≤ c.toNat by omega,
    show ¬ 0xDC00 ≤ c.toNat by omega]

/-- A character is printed as an escape that denotes it, or as itself if a string may hold it. -/
theorem escapeChar_cases (c : Char) :
    (∃ t, escapeChar c = '\\' :: t ∧ ∀ s, readEscape (t ++ s) = some (some c, s)) ∨
    escapeChar c = [c] ∧ c ∉ ['"', '\\', '\n', '\r'] := by
  by_cases hletter : c ∈ ['"', '\\', '\x08', '\x0c', '\n', '\r', '\t']
  · left
    simp only [List.mem_cons, List.not_mem_nil, or_false] at hletter
    rcases hletter with rfl | rfl | rfl | rfl | rfl | rfl | rfl <;>
      exact ⟨_, rfl, fun _ => rfl⟩
  · simp only [List.mem_cons, List.not_mem_nil, or_false, not_or] at hletter ⊢
    by_cases hcontrol : c.toNat < 0x20
    · refine .inl ⟨'u' :: (List.replicate (4 - (Text.hexDigits c.toNat).length) '0' ++
        Text.hexDigits c.toNat), by simp [escapeChar, hletter, hcontrol], fun s => ?_⟩
      rw [List.cons_append, readEscape, readUnicodeEscape_hexDigits hcontrol]
      rfl
    · exact .inr ⟨by simp [escapeChar, hletter, hcontrol], by simp [hletter]⟩

/-- One step of the reader takes up what one character is printed as. -/
theorem readQuoted_escapeChar_append (c b : Char) (budget s : Text) :
    readQuoted '"' (b :: budget) (escapeChar c ++ s) =
      (readQuoted '"' budget s).map fun (t, rest) => (c :: t, rest) := by
  rcases escapeChar_cases c with ⟨t, hprinted, hread⟩ | ⟨hprinted, hplain⟩
  · rw [hprinted, List.cons_append, readQuoted, if_neg (by decide), if_pos rfl, hread]
    cases hrest : readQuoted '"' budget s <;> simp [hrest]
  · simp only [List.mem_cons, List.not_mem_nil, or_false, not_or] at hplain
    simp [hprinted, readQuoted, hplain]

theorem readQuoted_escaped {budget : Text} (h : s.length < budget.length) (rest : Text) :
    readQuoted '"' budget (s.flatMap escapeChar ++ '"' :: rest) = some (s, rest) := by
  induction s generalizing budget with
  | nil =>
      cases budget with
      | nil => cases h
      | cons b budget => rfl
  | cons c s ih =>
      cases budget with
      | nil => cases h
      | cons b budget =>
          rw [List.flatMap_cons, List.append_assoc, readQuoted_escapeChar_append,
            ih (Nat.lt_of_succ_lt_succ h), Option.map_some]

theorem length_le_length_escaped (s : Text) : s.length ≤ (s.flatMap escapeChar).length := by
  induction s with
  | nil => exact Nat.le_refl 0
  | cons c s ih =>
      have hc : 1 ≤ (escapeChar c).length := by
        rcases escapeChar_cases c with ⟨t, hprinted, -⟩ | ⟨hprinted, -⟩ <;> simp [hprinted]
      rw [List.flatMap_cons, List.length_append, List.length_cons]
      omega

theorem readQuoted_stringText (s rest : Text) :
    ∃ t, stringText s ++ rest = '"' :: t ∧ readQuoted '"' t t = some (s, rest) := by
  refine ⟨s.flatMap escapeChar ++ '"' :: rest, by simp [stringText], readQuoted_escaped ?_ rest⟩
  have hlength := length_le_length_escaped s
  rw [List.length_append, List.length_cons]
  omega

/-! ### Delimiters -/

/-- The text is empty, or begins with a comma or a closing bracket. -/
def Delimited (rest : Text) : Prop := ∀ c ∈ rest.head?, c ∈ [',', ']', '\x7d']

theorem Delimited.stopsAt {p : Char → Bool} (h : Delimited rest)
    (hp : [',', ']', '\x7d'].any p = false) : rest.StopsAt p := fun c hc => by
  simpa using List.any_eq_false.mp hp c (h c hc)

theorem Delimited.head?_ne (h : Delimited rest) (hc : c ∉ [',', ']', '\x7d']) :
    rest.head? ≠ some c := fun heq => hc (h c heq)

/-! ### Integers -/

theorem ofNat_ne_nil (k : Nat) : Text.ofNat k ≠ [] := Nat.toDigits_ne_nil

theorem head?_ofNat (hk : k ≠ 0) : (Text.ofNat k).head? ≠ some '0' := by
  induction k using Nat.strongRecOn with
  | ind k ih =>
      by_cases hsmall : k < 10
      · have htable : ∀ d < 10, d ≠ 0 → d.digitChar ≠ '0' := by decide
        rw [Text.ofNat, Nat.toDigits_of_lt_base hsmall]
        simpa using htable k hsmall hk
      · have htens := ih (k / 10) (by omega) (by omega)
        rw [Text.ofNat, Nat.toDigits_of_base_le (by decide) (by omega),
          List.head?_append_of_ne_nil _ Nat.toDigits_ne_nil]
        exact htens

theorem head?_ofNat_append (hk : k ≠ 0) (rest : Text) :
    (Text.ofNat k ++ rest).head? ≠ some '0' := by
  rw [List.head?_append_of_ne_nil _ (ofNat_ne_nil k)]
  exact head?_ofNat hk

theorem splitFraction_of_delimited (h : Delimited rest) : splitFraction rest = (none, rest) := by
  unfold splitFraction
  split
  · exact absurd rfl (h.head?_ne (by decide))
  · rfl

theorem splitExponent_of_delimited (h : Delimited rest) : splitExponent rest = some ([], rest) := by
  cases rest with
  | nil => rfl
  | cons c rest =>
      have hc : ¬ (c = 'e' ∨ c = 'E') := by
        rintro (rfl | rfl)
        · exact h.head?_ne (by decide) rfl
        · exact h.head?_ne (by decide) rfl
      unfold splitExponent
      exact if_neg hc

theorem readDecimal_ofNat (negative : Bool) (k : Nat) (h : Delimited rest) :
    readDecimal negative (Text.ofNat k ++ rest) =
      some (ofInteger (Number.signed negative k), rest) := by
  have hstops : rest.StopsAt Number.isDigit := h.stopsAt (by decide)
  unfold readDecimal
  extract_lets whole
  have hwhole : whole = Text.ofNat k := by
    by_cases hk : k = 0
    · subst hk
      rfl
    · unfold whole
      split
      · rename_i heq
        exact absurd (congrArg List.head? heq) (head?_ofNat_append hk rest)
      · exact Text.takeWhile_append_of_stopsAt (fun _ => Number.isDigit_of_mem_ofNat) hstops
  rw [hwhole, List.drop_left, splitFraction_of_delimited h]
  simp [ofNat_ne_nil, splitExponent_of_delimited h, Number.ofDigits_ofNat]

/-- Behind a zero at its beginning a printed number ends. -/
theorem ofNat_append_ne (h : Delimited rest) (hc : c ∉ [',', ']', '\x7d']) :
    Text.ofNat k ++ rest ≠ '0' :: c :: t := by
  intro heq
  by_cases hk : k = 0
  · subst hk
    have hrest : rest = c :: t := (List.cons.inj heq).2
    exact h.head?_ne hc (congrArg List.head? hrest)
  · exact head?_ofNat_append hk rest (congrArg List.head? heq)

theorem exists_ofNat_eq_cons (k : Nat) :
    ∃ d ds, Text.ofNat k = d :: ds ∧ Number.isDigit d = true := by
  obtain ⟨d, ds, hds⟩ := List.exists_cons_of_ne_nil (ofNat_ne_nil k)
  exact ⟨d, ds, hds, Number.isDigit_of_mem_ofNat (hds ▸ List.mem_cons_self)⟩

theorem readUnsigned_ofNat (negative : Bool) (k : Nat) (h : Delimited rest) :
    readUnsigned negative (Text.ofNat k ++ rest) =
      some (ofInteger (Number.signed negative k), rest) := by
  obtain ⟨d, ds, hds, hd⟩ := exists_ofNat_eq_cons k
  have hinfinity : Text.dropPrefix? "Infinity".toList (Text.ofNat k ++ rest) = none := by
    rw [hds]
    exact if_neg (by rintro rfl; cases hd)
  have hnan : Text.dropPrefix? "NaN".toList (Text.ofNat k ++ rest) = none := by
    rw [hds]
    exact if_neg (by rintro rfl; cases hd)
  unfold readUnsigned
  rw [hinfinity, hnan]
  dsimp only
  split
  · rename_i heq
    exact absurd heq (ofNat_append_ne h (by decide))
  · rename_i heq
    exact absurd heq (ofNat_append_ne h (by decide))
  · exact readDecimal_ofNat negative k h

theorem readNumber_of_isDigit (hc : Number.isDigit c = true) (s : Text) :
    readNumber (c :: s) = readUnsigned false (c :: s) := by
  unfold readNumber
  split
  · rename_i heq
    cases heq
    cases hc
  · rename_i heq
    cases heq
    cases hc
  · rfl

theorem readNumber_ofInt (n : Int) (h : Delimited rest) :
    readNumber (Text.ofInt n ++ rest) = some (ofInteger n, rest) := by
  cases n with
  | ofNat k =>
      obtain ⟨d, ds, hds, hd⟩ := exists_ofNat_eq_cons k
      have hread := readUnsigned_ofNat false k h
      rw [hds] at hread
      rw [Text.ofInt, hds, List.cons_append, readNumber_of_isDigit hd]
      exact hread
  | negSucc k => exact readUnsigned_ofNat true (k + 1) h

end SearchFilter.Json.Relaxed
