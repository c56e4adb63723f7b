import SearchFilter.Json.Basic
import SearchFilter.Proofs.Number.Integers

/-! # JSON text holds no control characters

In the compact text of a value every control character of a string is written as an escape
(`controlFree_escapeChar`); the numbers, the words and the brackets hold none.  So the whole text
holds none (`controlFree_compact`): it stays on one line, and it cannot begin an escape sequence of
a terminal. -/

namespace SearchFilter

/-- No character of the text is a control character. -/
def Text.ControlFree (s : Text) : Prop := ∀ c ∈ s, 0x20 ≤ c.toNat

instance (s : Text) : Decidable s.ControlFree :=
  decidable_of_iff (s.all (0x20 ≤ Char.toNat ·) = true) (by simp [Text.ControlFree])

variable {c : Char} {s t : Text}

/-! ### Texts -/

namespace Text

@[simp] theorem controlFree_nil : ControlFree [] := by simp [ControlFree]

@[simp] theorem controlFree_cons :
    ControlFree (c :: s) ↔ 0x20 ≤ c.toNat ∧ ControlFree s :=
  List.forall_mem_cons

@[simp] theorem controlFree_append : ControlFree (s ++ t) ↔ ControlFree s ∧ ControlFree t :=
  List.forall_mem_append

theorem ControlFree.not_mem (h : ControlFree s) (hc : c.toNat < 0x20) : c ∉ s := by
  intro hmem
  have hle := h c hmem
  omega

theorem ControlFree.take (h : ControlFree s) (n : Nat) : ControlFree (s.take n) :=
  fun c hc => h c (List.mem_of_mem_take hc)

theorem ControlFree.drop (h : ControlFree s) (n : Nat) : ControlFree (s.drop n) :=
  fun c hc => h c (List.mem_of_mem_drop hc)

theorem controlFree_replicate (hc : 0x20 ≤ c.toNat) (n : Nat) :
    ControlFree (List.replicate n c) := by
  intro d hd
  rw [List.eq_of_mem_replicate hd]
  exact hc

theorem controlFree_ofNat (n : Nat) : ControlFree (ofNat n) := by
  intro c hc
  have hdigit := Number.isDigit_iff.mp (Number.isDigit_of_mem_ofNat hc)
  omega

theorem controlFree_ofInt (n : Int) : ControlFree (ofInt n) := by
  cases n with
  | ofNat n => exact controlFree_ofNat n
  | negSucc n =>
      unfold ofInt
      simp [controlFree_ofNat]

end Text

/-! ### Numbers -/

namespace FloatFormat

variable {digits : Text}

theorem controlFree_positionalText (h : digits.ControlFree) (showsPoint : Bool) (exponent : Int) :
    (positionalText showsPoint digits exponent).ControlFree := by
  have hzeros := fun n => Text.controlFree_replicate (show 0x20 ≤ '0'.toNat by decide) n
  unfold positionalText
  dsimp only
  split_ifs <;> simp [h, hzeros, h.take, h.drop]

theorem controlFree_exponentText (h : digits.ControlFree) (leading : Int) :
    (exponentText digits leading).ControlFree := by
  have hfraction : Text.ControlFree digits.tail := by simpa using h.drop 1
  unfold exponentText
  dsimp only
  split_ifs <;> simp [h.take, hfraction, Text.controlFree_ofNat]

theorem controlFree_magnitudeText (f : FloatFormat) (m : Nat) (e : Int) :
    (f.magnitudeText m e).ControlFree := by
  unfold magnitudeText
  dsimp only
  split_ifs
  · apply controlFree_positionalText
    decide
  · exact controlFree_positionalText (Text.controlFree_ofNat _) _ _
  · exact controlFree_exponentText (Text.controlFree_ofNat _) _

theorem controlFree_text (f : FloatFormat) (x : Binary64) : (f.text x).ControlFree := by
  cases x with
  | nan => simp [text]
  | infinite negative => cases negative <;> simp [text]
  | finite negative m e => cases negative <;> simp [text, controlFree_magnitudeText]

end FloatFormat

/-! ### Values -/

namespace Json

/-- What a character is printed as holds no control character, even if the character is one. -/
theorem controlFree_escapeChar (c : Char) : (escapeChar c).ControlFree := by
  by_cases hc : c.toNat < 0x20
  · have htable : ∀ n < 0x20, (escapeChar (Char.ofNat n)).ControlFree := by decide +kernel
    have h := htable c.toNat hc
    rwa [Char.ofNat_toNat] at h
  · unfold escapeChar
    split_ifs <;> simp [Nat.le_of_not_lt hc]

theorem controlFree_stringText (s : Text) : (stringText s).ControlFree := by
  unfold stringText
  simp only [Text.controlFree_append, Text.controlFree_cons]
  refine ⟨⟨by decide, fun c hc => ?_⟩, by decide, Text.controlFree_nil⟩
  obtain ⟨d, -, hd⟩ := List.mem_flatMap.mp hc
  exact controlFree_escapeChar d c hd

theorem controlFree_separated {separator : Text} (hseparator : separator.ControlFree)
    {ss : List Text} (h : ∀ s ∈ ss, s.ControlFree) : (separated separator ss).ControlFree := by
  fun_induction separated separator ss with
  | case1 => exact Text.controlFree_nil
  | case2 s => exact h s List.mem_cons_self
  | case3 s t rest ih =>
      obtain ⟨hs, hrest⟩ := List.forall_mem_cons.mp h
      simp [hs, hseparator, ih hrest]

mutual

/-- **JSON text holds no control characters.** -/
theorem controlFree_compact : (j : Json) → j.compact.ControlFree
  | null => by decide
  | boolean b => by cases b <;> decide
  | integer n => Text.controlFree_ofInt n
  | float x => by
      unfold compact floatText
      split
      · exact FloatFormat.controlFree_text floatFormat x
      · decide
  | string s => controlFree_stringText s
  | array items => by
      have hitems := controlFree_separated (by decide : Text.ControlFree [','])
        (controlFree_compactItems items)
      unfold compact
      simp [hitems]
  | object members => by
      have hmembers := controlFree_separated (by decide : Text.ControlFree [','])
        (controlFree_compactMembers members)
      unfold compact
      simp [hmembers]

theorem controlFree_compactItems : (items : List Json) → ∀ s ∈ compactItems items, s.ControlFree
  | [] => by simp [compactItems]
  | j :: js => by
      unfold compactItems
      exact List.forall_mem_cons.mpr ⟨controlFree_compact j, controlFree_compactItems js⟩

theorem controlFree_compactMembers :
    (members : List (Text × Json)) → ∀ s ∈ compactMembers members, s.ControlFree
  | [] => by simp [compactMembers]
  | (name, j) :: rest => by
      have hname := controlFree_stringText name
      have hvalue := controlFree_compact j
      unfold compactMembers
      refine List.forall_mem_cons.mpr ⟨?_, controlFree_compactMembers rest⟩
      simp [hname, hvalue]

end

end Json
end SearchFilter
