import SearchFilter.Proofs.Number.Integers
import SearchFilter.Proofs.Text.AsciiCase

/-! # The case of ASCII letters in numbers

Two kinds of letters may stand in a number: the mark of its exponent, which is read in either case,
and those of the words for infinity and NaN, which are made small first.  All other parts are signs,
digits and a point, which a change of case leaves where they are (`splitSign_asciiLower`,
`decimal?_asciiLower`).  So a text is one and the same number in either case, or none in either
(`read?_asciiLower`). -/

namespace SearchFilter.Number

open Text (asciiLower)

/-! ### Characters -/

theorem digit?_toLower (c : Char) : digit? c.toLower = digit? c :=
  Text.apply_toLower (by decide) c

theorem isDigit_toLower (c : Char) : isDigit c.toLower = isDigit c := by
  rw [isDigit, isDigit, digit?_toLower]

/-! ### Integers -/

theorem ofDigits_asciiLower (ds : Text) : ofDigits (asciiLower ds) = ofDigits ds := by
  rw [ofDigits, asciiLower, List.foldl_map]
  simp only [digit?_toLower, ofDigits]

theorem all_isDigit_asciiLower (ds : Text) : (asciiLower ds).all isDigit = ds.all isDigit := by
  have hcomp : isDigit ∘ Char.toLower = isDigit := funext isDigit_toLower
  rw [asciiLower, List.all_map, hcomp]

theorem splitSign_asciiLower (s : Text) :
    splitSign (asciiLower s) = ((splitSign s).1, asciiLower (splitSign s).2) := by
  cases s with
  | nil => rfl
  | cons c s =>
      by_cases hminus : c = '-'
      · subst hminus
        rfl
      · by_cases hplus : c = '+'
        · subst hplus
          rfl
        · have hminus' : c.toLower ≠ '-' := mt (Text.toLower_eq_iff (by decide)).mp hminus
          have hplus' : c.toLower ≠ '+' := mt (Text.toLower_eq_iff (by decide)).mp hplus
          rw [Text.asciiLower_cons, splitSign_of_ne hminus' hplus', splitSign_of_ne hminus hplus,
            Text.asciiLower_cons]

theorem integer?_asciiLower (s : Text) : integer? (asciiLower s) = integer? s := by
  simp only [integer?, splitSign_asciiLower, Text.isEmpty_asciiLower, all_isDigit_asciiLower,
    ofDigits_asciiLower]

/-! ### Floating-point numbers -/

theorem exponent?_asciiLower (s : Text) : exponent? (asciiLower s) = exponent? s := by
  cases s with
  | nil => rfl
  | cons c s =>
      have hmark : c.toLower = 'e' ∨ c.toLower = 'E' ↔ c = 'e' ∨ c = 'E' :=
        decide_eq_decide.mp
          (Text.apply_toLower (g := fun c => decide (c = 'e' ∨ c = 'E')) (by decide) c)
      simp only [Text.asciiLower_cons, exponent?, hmark, integer?_asciiLower]

theorem ofParts_asciiLower (negative : Bool) (whole fraction : Text) :
    ofParts negative (asciiLower whole) (asciiLower fraction) =
      ofParts negative whole fraction := by
  have hzero : ∀ c : Char, (c.toLower == '0') = (c == '0') :=
    Text.apply_toLower (g := fun c => c == '0') (by decide)
  have hzeros := Text.dropWhile_asciiLower (p := (· == '0')) hzero
  have hlength : ∀ t : Text, (asciiLower t).length = t.length := fun t => List.length_map _
  funext exponent
  simp only [ofParts, ← Text.asciiLower_append, hzeros, ofDigits_asciiLower, hlength]

/-- Digits may stand on either side of a point. -/
theorem decimal?_of_point {negative : Bool} {s r : Text} (h : s.dropWhile isDigit = '.' :: r) :
    decimal? negative s =
      if (s.takeWhile isDigit).isEmpty && (r.takeWhile isDigit).isEmpty then none
      else (exponent? (r.dropWhile isDigit)).map
        (ofParts negative (s.takeWhile isDigit) (r.takeWhile isDigit)) := by
  rw [decimal?, h]
  rfl

theorem decimal?_of_stopsAt {negative : Bool} {s : Text}
    (h : Text.StopsAt (· == '.') (s.dropWhile isDigit)) :
    decimal? negative s =
      if (s.takeWhile isDigit).isEmpty then none
      else (exponent? (s.dropWhile isDigit)).map (ofParts negative (s.takeWhile isDigit) []) := by
  unfold decimal?
  split
  rename_i fraction rest hparts
  split at hparts
  · rename_i r hpoint
    simp [hpoint] at h
  · cases hparts
    simp

theorem decimal?_asciiLower (negative : Bool) (s : Text) :
    decimal? negative (asciiLower s) = decimal? negative s := by
  have htake := Text.takeWhile_asciiLower isDigit_toLower
  have hdrop := Text.dropWhile_asciiLower isDigit_toLower
  have hmark : ∀ c : Char, (c.toLower == '.') = (c == '.') :=
    Text.apply_toLower (g := fun c => c == '.') (by decide)
  by_cases hpoint : Text.StopsAt (· == '.') (s.dropWhile isDigit)
  · have hpoint' : Text.StopsAt (· == '.') ((asciiLower s).dropWhile isDigit) := by
      rw [hdrop, Text.stopsAt_asciiLower hmark]
      exact hpoint
    have hparts := ofParts_asciiLower negative (s.takeWhile isDigit) []
    rw [Text.asciiLower_nil] at hparts
    rw [decimal?_of_stopsAt hpoint, decimal?_of_stopsAt hpoint', htake, hdrop,
      Text.isEmpty_asciiLower, exponent?_asciiLower, hparts]
  · obtain ⟨r, hr⟩ := Text.exists_eq_cons_of_not_stopsAt hpoint
    have hr' : (asciiLower s).dropWhile isDigit = '.' :: asciiLower r := by
      rw [hdrop, hr]
      rfl
    rw [decimal?_of_point hr, decimal?_of_point hr', htake, htake, hdrop,
      Text.isEmpty_asciiLower, Text.isEmpty_asciiLower, exponent?_asciiLower, ofParts_asciiLower]

theorem float?_asciiLower (s : Text) : float? (asciiLower s) = float? s := by
  have hlower : ∀ c : Char, c.toLower.toLower = c.toLower := Text.apply_toLower (by decide)
  have hword : ∀ r : Text, (asciiLower r).map Char.toLower = r.map Char.toLower := by
    intro r
    rw [asciiLower, List.map_map]
    exact List.map_congr_left fun c _ => hlower c
  simp only [float?, splitSign_asciiLower, hword, decimal?_asciiLower]

/-! ### Numbers -/

theorem read?_asciiLower (s : Text) : read? (asciiLower s) = read? s := by
  simp only [read?, Text.trim_asciiLower, integer?_asciiLower, float?_asciiLower]

end SearchFilter.Number
