import SearchFilter.Proofs.Value.Wildcards

/-! # Two ways to be equal

A value without a wildcard is compared by lowercase form (`equals_iff_of_not_mem`), a pattern letter
by letter.  The two agree where equal lowercase forms are the same letters and the other way round,
as they are where the lowercase form of all characters is their folding
(`equals_eq_matchesPattern`).  Elsewhere the two comparisons part: a sigma at the end of a word has a
lowercase form of its own, but is the same letter as any other sigma (`equals_ne_matchesPattern`). -/

namespace SearchFilter.AttributeValue

theorem equals_iff_of_not_mem {v : AttributeValue} {value : Text} (h : '*' ∉ value) :
    v.equals value = true ↔ ∃ m ∈ v.members, m ≠ .text [] ∧
      Text.lowercase m.toText = Text.lowercase (decode value) := by
  have hcontains : value.contains '*' = false := by simpa using h
  rw [equals, hcontains]
  simp [equalsWhole, ← Scalar.isEmpty_iff]

theorem equals_of_mem {v : AttributeValue} {value : Text} (h : '*' ∈ value) :
    v.equals value = v.matchesPattern value := by
  rw [equals, if_pos (by simpa using h)]

/-- **Equality by lowercase form and by letters**: a member other than the empty text equals a value
without wildcards exactly if it matches that value as a pattern, whenever the two texts have one
lowercase form exactly if they are the same letters, and only then.  It is so for all texts but
those with a capital sigma, the letter that becomes two or a letter with a folding of its own. -/
theorem equals_eq_matchesPattern (m : Scalar) (value : Text) (hm : m ≠ .text [])
    (hstar : '*' ∉ value) :
    ((single m).equals value = (single m).matchesPattern value ↔
      (Text.lowercase m.toText = Text.lowercase (decode value) ↔
        Text.SameLetters m.toText (decode value))) ∧
    ((∀ c ∈ m.toText ++ decode value,
        c ≠ 'Σ' ∧ c ≠ '\u0130' ∧ Text.CaseRun.image? c.toNat Text.foldingRuns = none) →
      (single m).equals value = (single m).matchesPattern value) := by
  have hequals : (single m).equals value = true ↔
      Text.lowercase m.toText = Text.lowercase (decode value) := by
    simp [equals_iff_of_not_mem hstar, members, hm]
  have hmatches : (single m).matchesPattern value = true ↔
      Text.SameLetters m.toText (decode value) := by
    simp [matchesPattern, members, Pattern.admits_iff_of_not_mem hstar]
  have hiff : (single m).equals value = (single m).matchesPattern value ↔
      (Text.lowercase m.toText = Text.lowercase (decode value) ↔
        Text.SameLetters m.toText (decode value)) := by
    rw [Bool.eq_iff_iff, hequals, hmatches]
  refine ⟨hiff, fun hplain => hiff.mpr ?_⟩
  have hagrees : ∀ c ∈ m.toText ++ decode value, Text.CaseAgrees c := by
    intro c hc
    obtain ⟨hsigma, hdotted, hfolding⟩ := hplain c hc
    exact Text.caseAgrees_of_image?_eq_none hsigma hdotted hfolding
  obtain ⟨hmember, hvalue⟩ := List.forall_mem_append.mp hagrees
  rw [Text.sameLetters_iff, Text.lowercase_eq_map_fold hmember, Text.lowercase_eq_map_fold hvalue]

/-- Capital and small letters beyond ASCII are equal in both ways. -/
theorem equals_eq_matchesPattern_beyond_ascii :
    let m := Scalar.text ['É', 'K']
    let value : Text := ['\\', 'c', '3', '\\', 'a', '9', 'k']
    (single m).equals value = (single m).matchesPattern value ∧ (single m).equals value = true := by
  intro m value
  have htext : m.toText ++ decode value = ['É', 'K', 'é', 'k'] := by decide
  have hplain : ∀ c ∈ m.toText ++ decode value,
      c ≠ 'Σ' ∧ c ≠ '\u0130' ∧ Text.CaseRun.image? c.toNat Text.foldingRuns = none := by
    rw [htext]
    intro c hc
    simp only [List.mem_cons, List.not_mem_nil, or_false] at hc
    rcases hc with rfl | rfl | rfl | rfl <;> decide
  exact ⟨(equals_eq_matchesPattern m value (by decide) (by decide)).2 hplain, by decide⟩

/-- The two comparisons differ: `ΑΣ` and `ασ` have the same letters, but the lowercase form of the
first ends with a final sigma. -/
theorem equals_ne_matchesPattern :
    (single (.text ['Α', 'Σ'])).equals ['α', 'σ'] = false ∧
      (single (.text ['Α', 'Σ'])).matchesPattern ['α', 'σ'] = true := by
  decide

end SearchFilter.AttributeValue
