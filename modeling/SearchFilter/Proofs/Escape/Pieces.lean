import SearchFilter.Proofs.Escape.Spellings
import SearchFilter.Value.Equality

/-! # Decoding piece by piece

A map of texts that keeps a character where it stands, whatever stands on its two sides, may as well
be applied to the pieces between the occurrences of this character (`eq_intercalate_splitOn`).
Decoding keeps every ASCII character that can belong to no escape, a raw star for one, so a value is
decoded piece by piece (`decode_eq_intercalate`), even where a star stands inside what would be an
escape or between two escapes of one character.  A pattern is taken apart at its stars before it is
decoded; nothing is lost or gained by that (`decode_between_stars`). -/

namespace SearchFilter

variable {sep : Char}

/-- A map that keeps the separator, or another sign for it, joins the images of the pieces. -/
theorem Text.eq_intercalate_splitOn {β : Type} {f : Text → List β} {sign : β}
    (hf : ∀ s t, f (s ++ sep :: t) = f s ++ sign :: f t) (s : Text) :
    f s = [sign].intercalate ((splitOn sep s).map f) := by
  by_cases h : sep ∈ s
  · -- cut at the first separator: what stands before it is one piece
    obtain ⟨before, after, hs, hbefore⟩ := List.eq_append_cons_of_mem h
    have hshorter : after.length < s.length := by
      rw [hs, List.length_append, List.length_cons]
      omega
    have hpieces : splitOn sep s = before :: splitOn sep after := by
      rw [hs, splitOn_append_cons, splitOn_of_not_mem hbefore, List.singleton_append]
    have hafter : (splitOn sep after).map f ≠ [] := by simpa using splitOn_ne_nil sep after
    calc f s
        = f before ++ sign :: f after := by rw [hs, hf]
      _ = f before ++ sign :: [sign].intercalate ((splitOn sep after).map f) := by
          rw [← eq_intercalate_splitOn hf after]
      _ = [sign].intercalate ((splitOn sep s).map f) := by
          rw [hpieces, List.map_cons, List.intercalate_cons_of_ne_nil hafter]
          simp
  · simp [splitOn_of_not_mem h]
termination_by s.length

theorem Text.intercalate_splitOn (sep : Char) (s : Text) :
    [sep].intercalate (splitOn sep s) = s := by
  have h : id s = [sep].intercalate ((splitOn sep s).map id) :=
    eq_intercalate_splitOn (fun _ _ => rfl) s
  rw [List.map_id] at h
  exact h.symm

theorem Text.splitOn_injective (sep : Char) : Function.Injective (splitOn sep) := by
  intro s t h
  rw [← intercalate_splitOn sep s, h, intercalate_splitOn]

/-- A value is decoded piece by piece at a character that can belong to no escape. -/
theorem decode_eq_intercalate (hascii : sep.toNat < 0x80) (hdigit : Text.hexDigit? sep = none)
    (hsep : sep ≠ '\\') (value : Text) :
    decode value = [sep].intercalate ((Text.splitOn sep value).map decode) := by
  refine Text.eq_intercalate_splitOn (fun s t => ?_) value
  exact decode_append_cons hascii hdigit (fun h => absurd h hsep) s

/-! ### Patterns -/

/-- A raw star stands for its own byte and parts what stands on its two sides. -/
theorem valueBytes_append_star (s t : Text) :
    valueBytes (s ++ '*' :: t) = valueBytes s ++ 0x2a :: valueBytes t := by
  have hraw : '*' = '\\' → ¬ Text.StartsWithPair t := fun h => absurd h (by decide)
  rw [valueBytes_append_cons (by decide) hraw]
  rfl

theorem map_fold_decode_append_star (s t : Text) :
    (decode (s ++ '*' :: t)).map Text.fold =
      (decode s).map Text.fold ++ '*' :: (decode t).map Text.fold := by
  have hraw : '*' = '\\' → ¬ Text.StartsWithPair t := fun h => absurd h (by decide)
  have hstar : Text.fold '*' = '*' := by decide
  rw [decode_append_cons (by decide) (by decide) hraw, List.map_append, List.map_cons, hstar]

/-- **A value is decoded between its stars.**  The bytes for which a value stands are those of its
pieces with the byte of a star between each two; the text that these bytes spell, well formed or
not, is that of the pieces with the stars between them; and these pieces, up to case, are the ones
for which the matcher looks. -/
theorem decode_between_stars (value : Text) :
    valueBytes value = [0x2a].intercalate ((Text.splitOn '*' value).map valueBytes) ∧
    decode value = ['*'].intercalate ((Text.splitOn '*' value).map decode) ∧
    (decode value).map Text.fold = ['*'].intercalate (Pattern.pieces value) := by
  refine ⟨?_, ?_, ?_⟩
  · exact Text.eq_intercalate_splitOn valueBytes_append_star value
  · exact decode_eq_intercalate (by decide) (by decide) (by decide) value
  · exact Text.eq_intercalate_splitOn (f := fun piece => (decode piece).map Text.fold)
      map_fold_decode_append_star value

/-- Inside an escape a star leaves the backslash and the digits as they are; between two escapes of
one character it leaves each of them malformed. -/
example : decode ['\\', '2', '*', 'a'] = ['\\', '2', '*', 'a'] ∧
    decode ['\\', 'c', '3', '*', '\\', 'a', '9'] = ['\ufffd', '*', '\ufffd'] := by
  decide

end SearchFilter
