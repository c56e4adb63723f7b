import SearchFilter.Proofs.Text.Blanks
import SearchFilter.Proofs.Text.Case

/-! # The case of ASCII letters

`asciiLower` makes the ASCII capitals of a text small and leaves everything else, so it gives one
text for two exactly if these differ in the case of ASCII letters only.  A function of characters that is
found in the ASCII table to give one value for both cases of a letter does so everywhere
(`apply_toLower`); folding is such a function, and so are the properties that decide the form of a
sigma.  So the folding and the lowercase form of a text are those of its small letters
(`map_fold_asciiLower`, `lowercase_asciiLower`), and cuts at other characters are made at the same
places (`splitOn_asciiLower`, `trim_asciiLower`). -/

namespace SearchFilter.Text

/-- The text with its ASCII capitals made small. -/
def asciiLower (s : Text) : Text := s.map Char.toLower

@[simp] theorem asciiLower_nil : asciiLower [] = [] := rfl

@[simp] theorem asciiLower_cons (c : Char) (s : Text) :
    asciiLower (c :: s) = c.toLower :: asciiLower s := rfl

theorem asciiLower_append (s t : Text) : asciiLower (s ++ t) = asciiLower s ++ asciiLower t :=
  List.map_append

theorem isEmpty_asciiLower (s : Text) : (asciiLower s).isEmpty = s.isEmpty := by
  cases s <;> rfl

/-! ### Characters -/

theorem toLower_of_wide {c : Char} (hc : 0x80 ≤ c.toNat) : c.toLower = c := by
  have hcapital : ¬ (c.val ≥ 'A'.val ∧ c.val ≤ 'Z'.val) := by
    rintro ⟨-, hle⟩
    have hz : c.toNat ≤ 'Z'.toNat := hle
    have hascii : 'Z'.toNat < 0x80 := by decide
    omega
  exact dif_neg hcapital

/-- Case is disregarded if it is so in the ASCII table. -/
theorem apply_toLower {α : Type} {g : Char → α}
    (h : ∀ n < 0x80, g (Char.ofNat n).toLower = g (Char.ofNat n)) (c : Char) :
    g c.toLower = g c := by
  by_cases hc : c.toNat < 0x80
  · have hascii := h c.toNat hc
    rwa [Char.ofNat_toNat] at hascii
  · rw [toLower_of_wide (Nat.le_of_not_lt hc)]

/-- Any character other than an ASCII letter is made from itself only. -/
theorem toLower_eq_iff {a : Char} (ha : a.isAlpha = false) {c : Char} :
    c.toLower = a ↔ c = a := by
  constructor
  · rintro rfl
    have halpha : c.isAlpha = false := by
      rwa [apply_toLower (g := Char.isAlpha) (by decide) c] at ha
    by_cases hc : c.toNat < 0x80
    · exact ((toLower_of_ascii hc).2 halpha).symm
    · exact (toLower_of_wide (Nat.le_of_not_lt hc)).symm
  · rintro rfl
    by_cases hc : c.toNat < 0x80
    · exact (toLower_of_ascii hc).2 ha
    · exact toLower_of_wide (Nat.le_of_not_lt hc)

theorem mem_asciiLower_iff {a : Char} (ha : a.isAlpha = false) {s : Text} :
    a ∈ asciiLower s ↔ a ∈ s := by
  simp [asciiLower, toLower_eq_iff ha]

theorem fold_toLower (c : Char) : fold c.toLower = fold c := apply_toLower (by decide) c

theorem lowercaseChar_toLower (c : Char) : lowercaseChar c.toLower = lowercaseChar c :=
  apply_toLower (by decide) c

theorem isCased_toLower (c : Char) : isCased c.toLower = isCased c :=
  apply_toLower (by decide) c

theorem isCaseIgnorable_toLower (c : Char) : isCaseIgnorable c.toLower = isCaseIgnorable c :=
  apply_toLower (by decide) c

theorem isBlank_toLower (c : Char) : isBlank c.toLower = isBlank c := apply_toLower (by decide) c

/-! ### Cuts -/

section Cuts

variable {p : Char → Bool} (hp : ∀ c, p c.toLower = p c) (s : Text)

include hp

theorem takeWhile_asciiLower : (asciiLower s).takeWhile p = asciiLower (s.takeWhile p) := by
  have hcomp : p ∘ Char.toLower = p := funext hp
  rw [asciiLower, List.takeWhile_map, hcomp, asciiLower]

theorem dropWhile_asciiLower : (asciiLower s).dropWhile p = asciiLower (s.dropWhile p) := by
  have hcomp : p ∘ Char.toLower = p := funext hp
  rw [asciiLower, List.dropWhile_map, hcomp, asciiLower]

theorem stopsAt_asciiLower : StopsAt p (asciiLower s) ↔ StopsAt p s := by
  cases s with
  | nil => rfl
  | cons c s => rw [asciiLower_cons, stopsAt_cons, stopsAt_cons, hp]

end Cuts

theorem trim_asciiLower (s : Text) : trim (asciiLower s) = asciiLower (trim s) := by
  have hreverse : ∀ t, (asciiLower t).reverse = asciiLower t.reverse := fun t =>
    List.map_reverse.symm
  rw [trim, trim, trimStart, trimStart, trimEnd, trimEnd, dropWhile_asciiLower isBlank_toLower,
    hreverse, dropWhile_asciiLower isBlank_toLower, hreverse]

theorem splitOn_asciiLower {sep : Char} (hsep : sep.isAlpha = false) (s : Text) :
    splitOn sep (asciiLower s) = (splitOn sep s).map asciiLower := by
  induction s with
  | nil => rfl
  | cons c s ih =>
      rw [asciiLower_cons, splitOn, splitOn, ih]
      by_cases hc : c = sep
      · rw [if_pos hc, if_pos ((toLower_eq_iff hsep).mpr hc)]
        rfl
      · rw [if_neg hc, if_neg (fun h => hc ((toLower_eq_iff hsep).mp h))]
        cases splitOn sep s <;> rfl

/-! ### Foldings and lowercase forms -/

theorem map_fold_asciiLower (s : Text) : (asciiLower s).map fold = s.map fold := by
  rw [asciiLower, List.map_map]
  exact List.map_congr_left fun c _ => fold_toLower c

theorem meetsCased_asciiLower (s : Text) : meetsCased (asciiLower s) = meetsCased s := by
  rw [meetsCased, meetsCased, dropWhile_asciiLower isCaseIgnorable_toLower]
  cases s.dropWhile isCaseIgnorable with
  | nil => rfl
  | cons c s => exact isCased_toLower c

theorem lowercaseAfter_asciiLower (before s : Text) :
    lowercaseAfter (asciiLower before) (asciiLower s) = lowercaseAfter before s := by
  induction s generalizing before with
  | nil => rfl
  | cons c s ih =>
      have hsigma : c.toLower = 'Σ' ↔ c = 'Σ' := toLower_eq_iff (by decide)
      have hfinal : isFinalSigma (asciiLower before) (asciiLower s) = isFinalSigma before s := by
        rw [isFinalSigma, isFinalSigma, meetsCased_asciiLower, meetsCased_asciiLower]
      have hrest := ih (c :: before)
      rw [asciiLower_cons] at hrest
      rw [asciiLower_cons, lowercaseAfter, lowercaseAfter, hrest, hfinal, lowercaseChar_toLower]
      simp only [hsigma]

theorem lowercase_asciiLower (s : Text) : lowercase (asciiLower s) = lowercase s :=
  lowercaseAfter_asciiLower [] s

end SearchFilter.Text
