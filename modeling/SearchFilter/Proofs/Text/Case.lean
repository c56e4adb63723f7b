import Mathlib.Data.List.Forall2
import SearchFilter.Text.Case

/-! # Letters without case

Two texts are the same letters (`SameLetters`) when they are equally long and their characters are
pairwise the same letter, that is, when their foldings are equal (`sameLetters_iff`).  Of the ASCII
characters only letters have case: any other one is the same letter as itself only
(`sameLetter_iff_eq`).

Lowercase forms and foldings are not the same: a capital sigma is lowercased by what stands around
it, one letter becomes two, and some letters have a folding of their own.  The lowercase form of a
text without these (`CaseAgrees`) is its folding (`lowercase_eq_map_fold`). -/

namespace SearchFilter.Text

/-! ### The same letters -/

/-- Two texts of the same letters, one after another. -/
def SameLetters (s t : Text) : Prop := List.Forall₂ (fun a b => sameLetter a b = true) s t

theorem sameLetter_iff {a b : Char} : sameLetter a b = true ↔ fold a = fold b := beq_iff_eq

theorem sameLetters_iff {s t : Text} : SameLetters s t ↔ s.map fold = t.map fold := by
  induction s generalizing t with
  | nil => cases t <;> simp [SameLetters]
  | cons a s ih =>
      cases t with
      | nil => simp [SameLetters]
      | cons b t =>
          have := ih (t := t)
          simp_all [SameLetters, sameLetter_iff]

@[simp] theorem sameLetters_nil_left {t : Text} : SameLetters [] t ↔ t = [] :=
  List.forall₂_nil_left_iff

@[simp] theorem sameLetters_nil_right {s : Text} : SameLetters s [] ↔ s = [] :=
  List.forall₂_nil_right_iff

/-! ### Letters and other characters -/

theorem CaseRun.exists_of_image? {n m : Nat} {runs : List CaseRun}
    (h : CaseRun.image? n runs = some m) :
    ∃ r ∈ runs, r.1 ≤ n ∧ n ≤ r.2.1 ∧ m = r.2.2.2 + (n - r.1) := by
  induction runs with
  | nil => simp [CaseRun.image?] at h
  | cons r runs ih =>
      obtain ⟨first, last, step, image⟩ := r
      rw [CaseRun.image?] at h
      split at h
      · cases h
      · rename_i hfirst
        split at h
        · rename_i hlast
          simp only [Bool.and_eq_true, decide_eq_true_eq] at hlast
          cases h
          exact ⟨_, List.mem_cons_self, Nat.le_of_not_lt hfirst, hlast.1, rfl⟩
        · obtain ⟨r, hr, hm⟩ := ih h
          exact ⟨r, List.mem_cons_of_mem _ hr, hm⟩

/-- A character beyond ASCII, or an ASCII letter. -/
def IsLetterOrWide (c : Char) : Prop := 0x80 ≤ c.toNat ∨ c.isAlpha = true

/-- All images of the run are characters beyond ASCII, or there is one, and it is a letter. -/
def CaseRun.Leaves (r : CaseRun) : Prop :=
  0x80 ≤ r.2.2.2 ∧ r.2.2.2 + (r.2.1 - r.1) < 0xD800 ∨
    0xE000 ≤ r.2.2.2 ∧ r.2.2.2 + (r.2.1 - r.1) < 0x110000 ∨
    r.1 = r.2.1 ∧ (Char.ofNat r.2.2.2).isAlpha = true

instance (r : CaseRun) : Decidable r.Leaves := by
  unfold CaseRun.Leaves
  infer_instance

theorem toNat_ofNat {n : Nat} (h : n.isValidChar) : (Char.ofNat n).toNat = n := by
  rw [Char.ofNat, dif_pos h]
  rfl

theorem isLetterOrWide_of_image? {n m : Nat} {runs : List CaseRun} (hruns : ∀ r ∈ runs, r.Leaves)
    (h : CaseRun.image? n runs = some m) : IsLetterOrWide (Char.ofNat m) := by
  obtain ⟨r, hr, hfirst, hlast, rfl⟩ := CaseRun.exists_of_image? h
  rcases hruns r hr with hlow | hhigh | ⟨hone, hletter⟩
  · left
    rw [toNat_ofNat (.inl (by omega))]
    omega
  · left
    rw [toNat_ofNat (.inr (by omega))]
    omega
  · right
    rwa [show r.2.2.2 + (n - r.1) = r.2.2.2 by omega]

theorem leaves_lowercaseRuns : ∀ r ∈ lowercaseRuns, r.Leaves := by decide +kernel

theorem leaves_foldingRuns : ∀ r ∈ foldingRuns, r.Leaves := by decide

/-- No character beyond ASCII folds to an ASCII character other than a letter. -/
theorem isLetterOrWide_fold {c : Char} (hc : 0x80 ≤ c.toNat) : IsLetterOrWide (fold c) := by
  rw [fold, if_neg (by omega)]
  split
  · rename_i n hn
    exact isLetterOrWide_of_image? leaves_foldingRuns hn
  · rw [lowercaseImage?]
    cases hn : CaseRun.image? c.toNat lowercaseRuns with
    | none => exact .inl hc
    | some n => exact isLetterOrWide_of_image? leaves_lowercaseRuns hn

theorem toLower_of_ascii {c : Char} (hc : c.toNat < 0x80) :
    c.toLower.isAlpha = c.isAlpha ∧ (c.isAlpha = false → c.toLower = c) := by
  have htable : ∀ n < 0x80, (Char.ofNat n).toLower.isAlpha = (Char.ofNat n).isAlpha ∧
      ((Char.ofNat n).isAlpha = false → (Char.ofNat n).toLower = Char.ofNat n) := by decide
  have h := htable c.toNat hc
  rwa [Char.ofNat_toNat] at h

theorem fold_of_ascii {c : Char} (hc : c.toNat < 0x80) : fold c = c.toLower := by
  rw [fold, if_pos hc]

theorem sameLetter_iff_eq {c d : Char} (hc : c.toNat < 0x80) (halpha : c.isAlpha = false) :
    sameLetter d c = true ↔ d = c := by
  have hfold : fold c = c := by rw [fold_of_ascii hc, (toLower_of_ascii hc).2 halpha]
  rw [sameLetter_iff, hfold]
  constructor
  · intro h
    by_cases hd : d.toNat < 0x80
    · rw [fold_of_ascii hd] at h
      have hdalpha : d.isAlpha = false := by rw [← (toLower_of_ascii hd).1, h, halpha]
      rw [← (toLower_of_ascii hd).2 hdalpha, h]
    · rcases isLetterOrWide_fold (Nat.le_of_not_lt hd) with hwide | hletter
      · rw [h] at hwide
        omega
      · rw [h, halpha] at hletter
        cases hletter
  · rintro rfl
    exact hfold

/-! ### Lowercase forms -/

/-- The lowercase form of the character is its folding, whatever stands around it. -/
def CaseAgrees (c : Char) : Prop := c ≠ 'Σ' ∧ lowercaseChar c = [fold c]

/-- Only sigma, the letter that becomes two, and the letters with a folding of their own are
lowercased and folded differently. -/
theorem caseAgrees_of_image?_eq_none {c : Char} (hsigma : c ≠ 'Σ') (hdotted : c ≠ '\u0130')
    (h : CaseRun.image? c.toNat foldingRuns = none) : CaseAgrees c := by
  refine ⟨hsigma, ?_⟩
  rw [lowercaseChar, fold, if_neg hdotted, h]
  split
  · rfl
  · rfl

/-- Without a capital sigma the characters around a character do not matter. -/
theorem lowercaseAfter_of_not_mem {s : Text} (h : 'Σ' ∉ s) (before : Text) :
    lowercaseAfter before s = s.flatMap lowercaseChar := by
  induction s generalizing before with
  | nil => rfl
  | cons c s ih =>
      obtain ⟨hc, hs⟩ := List.ne_and_not_mem_of_not_mem_cons h
      rw [lowercaseAfter, if_neg hc.symm, ih hs, List.flatMap_cons]

theorem lowercase_eq_map_fold {s : Text} (h : ∀ c ∈ s, CaseAgrees c) :
    lowercase s = s.map fold := by
  have hsigma : 'Σ' ∉ s := fun hc => (h _ hc).1 rfl
  rw [lowercase, lowercaseAfter_of_not_mem hsigma, ← List.flatMap_singleton' (s.map fold),
    List.flatMap_map]
  exact List.flatMap_congr fun c hc => (h c hc).2

end SearchFilter.Text
