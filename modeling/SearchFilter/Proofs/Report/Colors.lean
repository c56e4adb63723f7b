import Mathlib.Data.List.Forall2
import SearchFilter.Report.Color
import SearchFilter.Text.Width

/-! # What is seen of colored text

A terminal obeys a color sequence and shows nothing for it.  `uncolored` takes the sequences out of
a text.  What is seen of texts one after another is what is seen of each, provided that none of them
ends inside a sequence: `Shows s t` says that `s` is seen as `t` whatever stands behind it, and it
passes from the parts of a text to the whole (`Shows.append`, `shows_flatten`).  A text without the
escape character is seen as it is (`shows_self`), in a color too (`shows_paint`).  The measure of
columns knows nothing of sequences: it counts nine columns for a color (`width_paint`). -/

namespace SearchFilter.Color

variable {s t rest colored plain colored' plain' : Text} {c : Char}

/-! ### Color sequences -/

/-- Whether a character may stand between the bracket and the end of a color sequence. -/
def isParameter (c : Char) : Bool :=
  c.isDigit || c == ';'

/-- What follows the color sequence with which the text begins. -/
def dropSequence? : Text → Option Text
  | '\x1b' :: '[' :: s =>
    match s.dropWhile isParameter with
    | 'm' :: rest => some rest
    | _ => none
  | _ => none

theorem length_lt_of_dropSequence? (h : dropSequence? s = some rest) :
    rest.length < s.length := by
  unfold dropSequence? at h
  split at h
  · rename_i s
    split at h
    · rename_i hdrop
      cases h
      have hle := (List.dropWhile_suffix isParameter (l := s)).length_le
      rw [hdrop] at hle
      simp only [List.length_cons] at hle ⊢
      omega
    · cases h
  · cases h

/-- The text without its color sequences. -/
def uncolored : Text → Text
  | [] => []
  | c :: s =>
    match _h : dropSequence? (c :: s) with
    | some rest => uncolored rest
    | none => c :: uncolored s
termination_by s => s.length
decreasing_by
  · exact length_lt_of_dropSequence? (by assumption)
  · exact Nat.lt_succ_self _

theorem uncolored_of_dropSequence? (h : dropSequence? s = some rest) :
    uncolored s = uncolored rest := by
  cases s with
  | nil => cases h
  | cons c s =>
      rw [uncolored]
      split <;> simp_all

theorem uncolored_cons (hc : c ≠ '\x1b') (s : Text) : uncolored (c :: s) = c :: uncolored s := by
  have hnone : dropSequence? (c :: s) = none := by
    unfold dropSequence?
    split <;> simp_all
  rw [uncolored]
  split <;> simp_all

/-! ### What is seen -/

/-- The first text is seen as the second one, whatever stands behind it. -/
def Shows (colored plain : Text) : Prop :=
  ∀ t, uncolored (colored ++ t) = plain ++ uncolored t

theorem Shows.uncolored_eq (h : Shows colored plain) : uncolored colored = plain := by
  have hend := h []
  rw [List.append_nil] at hend
  simpa [uncolored] using hend

theorem Shows.append (h : Shows colored plain) (h' : Shows colored' plain') :
    Shows (colored ++ colored') (plain ++ plain') := by
  intro t
  rw [List.append_assoc, h, h', List.append_assoc]

theorem shows_flatten {ss ts : List Text} (h : List.Forall₂ Shows ss ts) :
    Shows ss.flatten ts.flatten := by
  induction h with
  | nil => exact fun _ => rfl
  | cons hs _ ih => exact hs.append ih

theorem forall₂_intersperse {ss ts : List Text} (hsep : Shows s t)
    (h : List.Forall₂ Shows ss ts) :
    List.Forall₂ Shows (ss.intersperse s) (ts.intersperse t) := by
  induction h with
  | nil => exact .nil
  | cons hs hrest ih =>
      cases hrest with
      | nil => exact .cons hs .nil
      | cons hnext hrest => exact .cons hs (.cons hsep ih)

theorem shows_self (h : '\x1b' ∉ s) : Shows s s := by
  intro t
  induction s with
  | nil => rfl
  | cons c s ih =>
      obtain ⟨hc, hs⟩ := List.ne_and_not_mem_of_not_mem_cons h
      rw [List.cons_append, uncolored_cons hc.symm, ih hs, List.cons_append]

theorem shows_select (color : Color) : Shows color.select [] := by
  intro t
  apply uncolored_of_dropSequence?
  cases color <;> rfl

theorem shows_reset : Shows reset [] := by
  intro t
  apply uncolored_of_dropSequence?
  rfl

/-! ### Painted texts -/

theorem reselect_of_not_mem (color : Color) (h : '\x1b' ∉ s) : color.reselect s = s := by
  induction s with
  | nil => rfl
  | cons c s ih =>
      obtain ⟨hc, hs⟩ := List.ne_and_not_mem_of_not_mem_cons h
      rw [reselect, ih hs]
      intro _ hesc
      exact absurd hesc.symm hc

theorem paint_true (color : Color) (h : '\x1b' ∉ s) :
    color.paint true s = color.select ++ (s ++ reset) := by
  unfold paint
  rw [if_pos rfl, reselect_of_not_mem color h, List.append_assoc]

theorem shows_paint (color : Color) (h : '\x1b' ∉ s) : Shows (color.paint true s) s := by
  have hshows := (shows_select color).append ((shows_self h).append shows_reset)
  rw [List.nil_append, List.append_nil] at hshows
  rwa [paint_true color h]

/-- Paint is measured: five characters select the color and four reset it. -/
theorem width_paint (color : Color) (h : '\x1b' ∉ s) (hs : s.all Text.isNarrow = true) :
    Text.width (color.paint true s) = Text.width s + 9 := by
  have hselect : color.select.all Text.isNarrow = true := by cases color <;> rfl
  have hreset : reset.all Text.isNarrow = true := rfl
  have hlength : color.select.length = 5 := by cases color <;> rfl
  have hnarrow : (color.paint true s).all Text.isNarrow = true := by
    rw [paint_true color h, List.all_append, List.all_append, hselect, hs, hreset]
    rfl
  rw [Text.width_of_isNarrow (List.all_eq_true.mp hnarrow),
    Text.width_of_isNarrow (List.all_eq_true.mp hs), paint_true color h]
  simp only [List.length_append, hlength, reset, List.length_cons, List.length_nil]
  omega

end SearchFilter.Color
