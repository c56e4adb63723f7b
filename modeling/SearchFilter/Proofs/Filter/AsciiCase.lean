import SearchFilter.Proofs.Escape.AsciiCase
import SearchFilter.Proofs.Filter.Comparisons
import SearchFilter.Proofs.Number.AsciiCase

/-! # The case of ASCII letters in comparisons

A comparison tests an attribute in one of five ways: for presence, by lowercase form, letter by
letter, by the order of numbers or by the order of lowercase forms.  None of them takes notice of
the case of ASCII letters, in the texts of the record or in the value of the comparison, where a
change may concern the digits of escapes (`Comparison.accepts_asciiLower`).  So comparisons whose
values differ in the case of ASCII letters only give one result for records whose texts do
(`holds_of_asciiLower_eq`). -/

namespace SearchFilter

theorem lowercase_decode_asciiLower (value : Text) :
    Text.lowercase (decode (Text.asciiLower value)) = Text.lowercase (decode value) :=
  apply_decode_asciiLower Text.lowercase_asciiLower value

/-! ### Members -/

namespace Scalar

/-- The value with the ASCII capitals of its text made small; numbers and truth values have no text
of their own. -/
def asciiLower : Scalar → Scalar
  | text s => text (Text.asciiLower s)
  | m => m

theorem isEmpty_asciiLower (m : Scalar) : m.asciiLower.isEmpty = m.isEmpty := by
  cases m with
  | text s => exact Text.isEmpty_asciiLower s
  | _ => rfl

theorem lowercase_toText_asciiLower (m : Scalar) :
    Text.lowercase m.asciiLower.toText = Text.lowercase m.toText := by
  cases m with
  | text s => exact Text.lowercase_asciiLower s
  | _ => rfl

theorem map_fold_toText_asciiLower (m : Scalar) :
    m.asciiLower.toText.map Text.fold = m.toText.map Text.fold := by
  cases m with
  | text s => exact Text.map_fold_asciiLower s
  | _ => rfl

theorem number?_asciiLower (m : Scalar) : m.asciiLower.number? = m.number? := by
  cases m with
  | text s => exact Number.read?_asciiLower s
  | _ => rfl

theorem compareWith_asciiLower (policy : OrderPolicy) (m : Scalar) (value : Text) :
    m.asciiLower.compareWith policy (decode (Text.asciiLower value)) =
      m.compareWith policy (decode value) := by
  have hnumber : Number.read? (decode (Text.asciiLower value)) = Number.read? (decode value) :=
    apply_decode_asciiLower Number.read?_asciiLower value
  simp only [compareWith, compareAsNumber?, compareAsText, number?_asciiLower,
    lowercase_toText_asciiLower, lowercase_decode_asciiLower, hnumber]

end Scalar

/-! ### Patterns -/

namespace Pattern

theorem fits_asciiLower (pattern : Text) : fits (Text.asciiLower pattern) = fits pattern := by
  have hpieces : Text.splitOn '*' (Text.asciiLower pattern) =
      (Text.splitOn '*' pattern).map Text.asciiLower := Text.splitOn_asciiLower (by decide) pattern
  have hlength := congrArg List.length hpieces
  rw [List.length_map, Text.length_splitOn, Text.length_splitOn] at hlength
  rw [fits, fits, Nat.succ_injective hlength]

theorem pieces_asciiLower (pattern : Text) :
    pieces (Text.asciiLower pattern) = pieces pattern := by
  rw [pieces, pieces, Text.splitOn_asciiLower (by decide), List.map_map]
  exact List.map_congr_left fun piece _ => apply_decode_asciiLower Text.map_fold_asciiLower piece

theorem admits_asciiLower (pattern : Text) (m : Scalar) :
    admits (Text.asciiLower pattern) m.asciiLower.toText = admits pattern m.toText := by
  rw [admits, admits, fits_asciiLower, pieces_asciiLower, m.map_fold_toText_asciiLower]

end Pattern

/-! ### Values -/

namespace AttributeValue

/-- The value with the ASCII capitals of its texts made small. -/
def asciiLower : AttributeValue → AttributeValue
  | single m => single m.asciiLower
  | multi ms => multi (ms.map Scalar.asciiLower)

theorem members_asciiLower (v : AttributeValue) :
    v.asciiLower.members = v.members.map Scalar.asciiLower := by
  cases v <;> rfl

theorem any_members_asciiLower {p q : Scalar → Bool} (h : ∀ m : Scalar, p m.asciiLower = q m)
    (v : AttributeValue) : v.asciiLower.members.any p = v.members.any q := by
  have hcomp : p ∘ Scalar.asciiLower = q := funext h
  rw [members_asciiLower, List.any_map, hcomp]

theorem isPresent_asciiLower (v : AttributeValue) : v.asciiLower.isPresent = v.isPresent :=
  any_members_asciiLower (fun m => congrArg (!·) m.isEmpty_asciiLower) v

/-- A raw star is no letter, so a value with wildcards has them in either case. -/
theorem equals_asciiLower (v : AttributeValue) (value : Text) :
    v.asciiLower.equals (Text.asciiLower value) = v.equals value := by
  have hcontains : (Text.asciiLower value).contains '*' = value.contains '*' := by
    rw [Bool.eq_iff_iff, List.contains_iff_mem, List.contains_iff_mem,
      Text.mem_asciiLower_iff (by decide)]
  have hmatches : v.asciiLower.matchesPattern (Text.asciiLower value) = v.matchesPattern value :=
    any_members_asciiLower (Pattern.admits_asciiLower value) v
  have hwhole : v.asciiLower.equalsWhole (Text.asciiLower value) = v.equalsWhole value := by
    refine any_members_asciiLower (fun m => ?_) v
    rw [m.isEmpty_asciiLower, m.lowercase_toText_asciiLower, lowercase_decode_asciiLower]
  rw [equals, equals, hcontains, hmatches, hwhole]

theorem isAtMost_asciiLower (policy : OrderPolicy) (v : AttributeValue) (value : Text) :
    v.asciiLower.isAtMost policy (Text.asciiLower value) = v.isAtMost policy value :=
  any_members_asciiLower (fun m => by rw [m.compareWith_asciiLower]) v

theorem isAtLeast_asciiLower (policy : OrderPolicy) (v : AttributeValue) (value : Text) :
    v.asciiLower.isAtLeast policy (Text.asciiLower value) = v.isAtLeast policy value :=
  any_members_asciiLower (fun m => by rw [m.compareWith_asciiLower]) v

end AttributeValue

/-! ### Comparisons -/

/-- No operator takes notice of case, and a star alone is one in either case. -/
theorem Comparison.accepts_asciiLower (name : Text) (operator : Operator) (value : Text)
    (policy : OrderPolicy) (v : AttributeValue) :
    accepts ⟨name, operator, Text.asciiLower value⟩ policy v.asciiLower =
      accepts ⟨name, operator, value⟩ policy v := by
  have hstar : Text.asciiLower value = ['*'] ↔ value = ['*'] := by
    simp [Text.asciiLower, List.map_eq_cons_iff, Text.toLower_eq_iff (a := '*') (by decide)]
  exact accepts_congr hstar v.isPresent_asciiLower (v.equals_asciiLower value)
    (v.isAtMost_asciiLower policy value) (v.isAtLeast_asciiLower policy value) name operator

namespace Filter

/-- **The case of ASCII letters never matters**: two comparisons for one attribute whose values
differ in the case of ASCII letters only, be they letters of a text, digits of an escape or the mark
of an exponent, have one result for two records in which the texts of the attribute differ in that
way only, under both policies. -/
theorem holds_of_asciiLower_eq {ρ ρ' : Type} [Record ρ] [Record ρ'] {r : ρ} {r' : ρ'}
    {name value value' : Text} (hvalue : Text.asciiLower value = Text.asciiLower value')
    (hrecord : (Record.value? r name).map AttributeValue.asciiLower =
      (Record.value? r' name).map AttributeValue.asciiLower)
    (operator : Operator) (policy : OrderPolicy) :
    holds r policy (.comparison ⟨name, operator, value⟩) =
      holds r' policy (.comparison ⟨name, operator, value'⟩) := by
  rw [holds, holds, Comparison.holds, Comparison.holds]
  cases hv : Record.value? r name with
  | none =>
      rw [hv, Option.map_none, eq_comm, Option.map_eq_none_iff] at hrecord
      rw [hrecord]
  | some v =>
      rw [hv, Option.map_some, eq_comm, Option.map_eq_some_iff] at hrecord
      obtain ⟨v', hv', hlower⟩ := hrecord
      rw [hv']
      calc Comparison.accepts ⟨name, operator, value⟩ policy v
          = Comparison.accepts ⟨name, operator, Text.asciiLower value⟩ policy v.asciiLower :=
            (Comparison.accepts_asciiLower name operator value policy v).symm
        _ = Comparison.accepts ⟨name, operator, Text.asciiLower value'⟩ policy v'.asciiLower := by
            rw [hvalue, hlower]
        _ = Comparison.accepts ⟨name, operator, value'⟩ policy v' :=
            Comparison.accepts_asciiLower name operator value' policy v'

/-- A letter behind a capital sigma, which is not final in either case, and the digits of an escape;
then the mark of an exponent. -/
theorem holds_of_asciiLower_eq_sigma :
    let r := Entry.empty.insert ['a'] (.multi [.text ['Α', 'Σ', 'b', 'J'], .text ['1', 'E', '5']])
    let r' := Entry.empty.insert ['a'] (.multi [.text ['Α', 'Σ', 'B', 'j'], .text ['1', 'e', '5']])
    let value : Text := ['Α', 'Σ', 'B', '\\', '4', 'a']
    let value' : Text := ['Α', 'Σ', 'b', '\\', '4', 'A']
    (holds r .natural (.comparison ⟨['a'], .equality, value⟩) =
        holds r' .natural (.comparison ⟨['a'], .equality, value'⟩) ∧
      holds r .natural (.comparison ⟨['a'], .equality, value⟩) = true) ∧
      holds r .natural (.comparison ⟨['a'], .greaterOrEqual, ['9', 'E', '4']⟩) =
        holds r' .natural (.comparison ⟨['a'], .greaterOrEqual, ['9', 'e', '4']⟩) := by
  intro r r' value value'
  have hrecord : (Record.value? r ['a']).map AttributeValue.asciiLower =
      (Record.value? r' ['a']).map AttributeValue.asciiLower := by decide
  refine ⟨⟨holds_of_asciiLower_eq ?_ hrecord .equality .natural, by decide +kernel⟩, ?_⟩
  · decide
  · exact holds_of_asciiLower_eq (by decide) hrecord .greaterOrEqual .natural

end Filter
end SearchFilter
