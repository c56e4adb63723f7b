import SearchFilter.Proofs.Escape.Pieces
import SearchFilter.Proofs.Filter.Comparisons

/-! # Values spelled in another way

One value is another spelling of a second one if between their raw stars they have pieces that
denote the same texts (`Respells`).  Then they denote the same text as a whole (`decode_eq`), they
have equally many wildcards (`count_eq`), and one of them asks for presence exactly if the other one
does (`eq_star_iff`).  Whatever an operator reads of its value is among these, so no comparison
tells the two spellings apart (`holds_of_respells`). -/

namespace SearchFilter

/-- Between the raw stars of the two values stand equally many pieces, which denote the same
texts. -/
def Respells (value value' : Text) : Prop :=
  (Text.splitOn '*' value).map decode = (Text.splitOn '*' value').map decode

instance (value value' : Text) : Decidable (Respells value value') :=
  inferInstanceAs (Decidable (_ = _))

variable {value value' : Text}

namespace Respells

theorem symm (h : Respells value value') : Respells value' value := Eq.symm h

theorem decode_eq (h : Respells value value') : decode value = decode value' := by
  have hpieces : ∀ s, decode s = ['*'].intercalate ((Text.splitOn '*' s).map decode) :=
    decode_eq_intercalate (by decide) (by decide) (by decide)
  rw [hpieces value, h, ← hpieces]

theorem count_eq (h : Respells value value') : value.count '*' = value'.count '*' := by
  have hlength := congrArg List.length h
  simpa [Text.length_splitOn] using hlength

theorem mem_iff (h : Respells value value') : '*' ∈ value ↔ '*' ∈ value' := by
  rw [← List.count_pos_iff, h.count_eq, List.count_pos_iff]

/-- Presence has one spelling: only an empty piece denotes the empty text. -/
theorem eq_star (h : Respells value ['*']) : value = ['*'] := by
  have hdecoded : (Text.splitOn '*' value).map decode = [[], []] := h
  have hpieces : Text.splitOn '*' value = [[], []] := by
    simpa [List.map_eq_cons_iff, decode_eq_nil_iff] using hdecoded
  exact Text.splitOn_injective '*' hpieces

theorem eq_star_iff (h : Respells value value') : value = ['*'] ↔ value' = ['*'] := by
  constructor
  · rintro rfl
    exact h.symm.eq_star
  · rintro rfl
    exact h.eq_star

end Respells

/-! ### What the operators read -/

theorem Pattern.pieces_eq_map (pattern : Text) :
    pieces pattern = ((Text.splitOn '*' pattern).map decode).map (List.map Text.fold) := by
  rw [pieces, List.map_map]
  rfl

/-- Equality reads the decoded pieces if there are wildcards, and the decoded value if not. -/
theorem AttributeValue.equals_of_respells (v : AttributeValue) (h : Respells value value') :
    v.equals value = v.equals value' := by
  have hcontains : value.contains '*' = value'.contains '*' := by
    rw [Bool.eq_iff_iff, List.contains_iff_mem, List.contains_iff_mem]
    exact h.mem_iff
  have hfits : Pattern.fits value = Pattern.fits value' := by
    rw [Pattern.fits, Pattern.fits, h.count_eq]
  have hpieces : Pattern.pieces value = Pattern.pieces value' := by
    rw [Pattern.pieces_eq_map, Pattern.pieces_eq_map, h]
  unfold equals matchesPattern Pattern.admits equalsWhole
  rw [hcontains, hfits, hpieces, h.decode_eq]

/-- Ordering reads the decoded value. -/
theorem Comparison.accepts_of_respells (h : Respells value value') (name : Text)
    (operator : Operator) (policy : OrderPolicy) (v : AttributeValue) :
    accepts ⟨name, operator, value⟩ policy v = accepts ⟨name, operator, value'⟩ policy v := by
  have hmost : v.isAtMost policy value = v.isAtMost policy value' := by
    rw [AttributeValue.isAtMost, AttributeValue.isAtMost, h.decode_eq]
  have hleast : v.isAtLeast policy value = v.isAtLeast policy value' := by
    rw [AttributeValue.isAtLeast, AttributeValue.isAtLeast, h.decode_eq]
  exact accepts_congr h.eq_star_iff rfl (v.equals_of_respells h) hmost hleast name operator

namespace Filter

/-- **Spelling does not matter**: two values whose pieces between the raw stars denote the same
texts, one by one, give comparisons that hold for the same records, with any operator, for any
attribute and under both policies. -/
theorem holds_of_respells (h : Respells value value') (name : Text) (operator : Operator)
    {ρ : Type} [Record ρ] (r : ρ) (policy : OrderPolicy) :
    holds r policy (.comparison ⟨name, operator, value⟩) =
      holds r policy (.comparison ⟨name, operator, value'⟩) := by
  rw [holds, holds, Comparison.holds, Comparison.holds]
  cases Record.value? r name with
  | none => rfl
  | some v => exact Comparison.accepts_of_respells h name operator policy v

/-- A star cuts the two bytes of a letter, so both are read as replacement characters, which may
also stand there as they are or as escapes; the letter behind them is escaped or not. -/
theorem holds_of_respells_cut :
    let value : Text := ['\\', 'c', '3', '*', '\\', 'A', '9', 'É']
    let value' : Text := ['\ufffd', '*', '\\', 'e', 'f', '\\', 'b', 'f', '\\', 'B', 'D',
      '\\', 'c', '3', '\\', '8', '9']
    let r := Entry.empty.insert ['a'] (.single (.text ['\ufffd', '-', '\ufffd', 'é']))
    Respells value value' ∧
      (holds r .natural (.comparison ⟨['a'], .equality, value⟩) =
        holds r .natural (.comparison ⟨['a'], .equality, value'⟩) ∧
      holds r .natural (.comparison ⟨['a'], .equality, value⟩) = true) ∧
      holds r .lexical (.comparison ⟨['a'], .lessOrEqual, value⟩) =
        holds r .lexical (.comparison ⟨['a'], .lessOrEqual, value'⟩) := by
  intro value value' r
  have hspells : Respells value value' := by decide
  refine ⟨hspells, ⟨holds_of_respells hspells _ _ r _, by decide +kernel⟩, ?_⟩
  exact holds_of_respells hspells _ _ r _

end Filter
end SearchFilter
