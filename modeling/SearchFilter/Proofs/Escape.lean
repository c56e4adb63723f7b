import Mathlib.Tactic.SplitIfs
import SearchFilter.Escape
import SearchFilter.Proofs.Text.Utf8

/-! # Escaping and decoding

Of the five reserved characters only the backslash is left in an escaped text (`not_mem_escape`).
Every escape stands for the one byte of its character, so an escaped text denotes the text itself
(`decode_escape`).  A value without a backslash denotes itself (`decode_of_not_mem`), and no value
but the empty one denotes the empty text (`decode_eq_nil_iff`). -/

namespace SearchFilter

/-! ### What escaping removes -/

theorem not_mem_escapeChar {c : Char} (hc : c ∈ ['*', '(', ')', '\x00']) (d : Char) :
    c ∉ escapeChar d := by
  simp only [List.mem_cons, List.not_mem_nil, or_false] at hc
  have hmarks : ∀ t ∈ [['\\', '5', 'c'], ['\\', '2', 'a'], ['\\', '2', '8'], ['\\', '2', '9'],
      ['\\', '0', '0']], c ∉ t := by
    rcases hc with rfl | rfl | rfl | rfl <;> decide
  unfold escapeChar
  split_ifs with h1 h2 h3 h4 h5
  · exact hmarks _ (by decide)
  · exact hmarks _ (by decide)
  · exact hmarks _ (by decide)
  · exact hmarks _ (by decide)
  · exact hmarks _ (by decide)
  · rw [List.mem_singleton]
    rintro rfl
    simp_all

theorem not_mem_escape {c : Char} (hc : c ∈ ['*', '(', ')', '\x00']) (s : Text) : c ∉ escape s := by
  intro h
  obtain ⟨d, -, hd⟩ := List.mem_flatMap.mp h
  exact not_mem_escapeChar hc d hd

/-! ### What values denote -/

theorem utf8EncodeChar_ne_nil (c : Char) : String.utf8EncodeChar c ≠ [] := by
  intro h
  have hsize := String.length_utf8EncodeChar c
  rw [h] at hsize
  exact Nat.ne_of_lt c.utf8Size_pos hsize

theorem valueBytes_cons_of_ne {c : Char} (hc : c ≠ '\\') (s : Text) :
    valueBytes (c :: s) = String.utf8EncodeChar c ++ valueBytes s := by
  rw [valueBytes]
  exact fun _ _ _ h => absurd h hc

theorem valueBytes_escapeChar_append (c : Char) (s : Text) :
    valueBytes (escapeChar c ++ s) = String.utf8EncodeChar c ++ valueBytes s := by
  unfold escapeChar
  split_ifs with h1 h2 h3 h4 h5
  · subst h1
    rfl
  · subst h2
    rfl
  · subst h3
    rfl
  · subst h4
    rfl
  · subst h5
    rfl
  · exact valueBytes_cons_of_ne h1 s

theorem valueBytes_escape (s : Text) : valueBytes (escape s) = Text.toUtf8 s := by
  induction s with
  | nil => rfl
  | cons c s ih => rw [escape_cons, valueBytes_escapeChar_append, ih, Text.toUtf8, Text.toUtf8,
      List.flatMap_cons]

/-- An escaped text denotes the text itself. -/
theorem decode_escape (s : Text) : decode (escape s) = s := by
  rw [decode, valueBytes_escape, Text.ofUtf8Lossy_toUtf8]

theorem valueBytes_of_not_mem {s : Text} (h : '\\' ∉ s) : valueBytes s = Text.toUtf8 s := by
  induction s with
  | nil => rfl
  | cons c s ih =>
      obtain ⟨hc, hs⟩ := List.ne_and_not_mem_of_not_mem_cons h
      rw [valueBytes_cons_of_ne hc.symm, ih hs, Text.toUtf8, Text.toUtf8, List.flatMap_cons]

theorem decode_of_not_mem {s : Text} (h : '\\' ∉ s) : decode s = s := by
  rw [decode, valueBytes_of_not_mem h, Text.ofUtf8Lossy_toUtf8]

theorem valueBytes_eq_nil_iff {value : Text} : valueBytes value = [] ↔ value = [] := by
  constructor
  · intro h
    unfold valueBytes at h
    split at h
    · split at h
      · exact absurd h (List.cons_ne_nil _ _)
      · exact absurd (List.append_eq_nil_iff.mp h).1 (utf8EncodeChar_ne_nil _)
    · exact absurd (List.append_eq_nil_iff.mp h).1 (utf8EncodeChar_ne_nil _)
    · rfl
  · rintro rfl
    rfl

theorem decode_eq_nil_iff {value : Text} : decode value = [] ↔ value = [] := by
  rw [decode, Text.ofUtf8Lossy_eq_nil_iff, valueBytes_eq_nil_iff]
  simp

end SearchFilter
