import SearchFilter.Filter.Construct
import SearchFilter.Proofs.Filter.Trees
import SearchFilter.Proofs.Text.Blanks

/-! # The grammar of filters

The written form of filters, with one relation between texts and what they denote for each rule:

    input  = ws ( filter / item ) ws                        InputForm
    filter = "(" ws body ws ")"                             FilterForm
    body   = "&" list / "|" list / "!" ws filter / item     BodyForm
    list   = 1*( ws filter ) ws                             ListForm
    item   = name ws operator value                         ItemForm

Blanks after an item can be read as part of its value or not.  Before a parenthesis they all belong
to the value (`Filter.extend`), at the end of the input none of them does (`Comparison.trim`).

Nothing here reads a text, and the relations do not bound how deep filters nest. -/

namespace SearchFilter

/-! ### Names and values -/

/-- The characters of attribute names. -/
def NameChar (c : Char) : Prop :=
  ('A' ≤ c ∧ c ≤ 'Z') ∨ ('a' ≤ c ∧ c ≤ 'z') ∨ ('0' ≤ c ∧ c ≤ '9') ∨ c ∈ ['-', '.', ';', '_']

/-- An attribute name: one or more name characters. -/
def IsName (s : Text) : Prop := s ≠ [] ∧ ∀ c ∈ s, NameChar c

/-- The written form of a value: any characters but parentheses and NUL. -/
def IsValue (s : Text) : Prop := '(' ∉ s ∧ ')' ∉ s ∧ '\x00' ∉ s

theorem isNameChar_iff {c : Char} : isNameChar c = true ↔ NameChar c := by
  have halnum : c.isAlphanum = (decide ('A' ≤ c ∧ c ≤ 'Z') ||
      (decide ('a' ≤ c) && decide (c ≤ 'z')) || (decide ('0' ≤ c) && decide (c ≤ '9'))) := rfl
  rw [isNameChar, halnum]
  simp only [NameChar, Bool.or_eq_true, Bool.and_eq_true, decide_eq_true_eq, beq_iff_eq,
    List.mem_cons, List.not_mem_nil, or_false, or_assoc]

instance : DecidablePred NameChar := fun _ => decidable_of_iff _ isNameChar_iff

theorem isAttributeName_iff {s : Text} : isAttributeName s = true ↔ IsName s := by
  simp [isAttributeName, IsName, isNameChar_iff]

theorem isValue_append {u v : Text} : IsValue (u ++ v) ↔ IsValue u ∧ IsValue v := by
  simp only [IsValue, List.mem_append, not_or]
  constructor
  · rintro ⟨⟨h1, h2⟩, ⟨h3, h4⟩, h5, h6⟩
    exact ⟨⟨h1, h3, h5⟩, h2, h4, h6⟩
  · rintro ⟨⟨h1, h3, h5⟩, h2, h4, h6⟩
    exact ⟨⟨h1, h2⟩, ⟨h3, h4⟩, h5, h6⟩

theorem not_isBlank_of_nameChar {c : Char} (h : NameChar c) : Text.isBlank c = false := by
  simp only [NameChar, Char.le_def, UInt32.le_iff_toNat_le, List.mem_cons, List.not_mem_nil,
    or_false] at h
  have hletter : 48 ≤ c.toNat ∧ c.toNat ≤ 122 → Text.isBlank c = false := by
    intro hc
    simp only [Text.isBlank, Bool.or_eq_false_iff, Bool.and_eq_false_iff, decide_eq_false_iff_not,
      beq_eq_false_iff_ne]
    omega
  -- Digits and letters all lie between '0' and 'z', where there are no blanks.
  rcases h with h | h | h | rfl | rfl | rfl | rfl
  iterate 3 exact hletter ⟨le_trans (by decide) h.1, le_trans h.2 (by decide)⟩
  all_goals decide

theorem IsName.not_mem {c : Char} {s : Text} (h : IsName s) (hc : ¬ NameChar c) : c ∉ s :=
  fun hmem => hc (h.2 c hmem)

theorem isValue_of_allBlank {w : Text} (h : w.AllBlank) : IsValue w :=
  ⟨h.not_mem (by decide), h.not_mem (by decide), h.not_mem (by decide)⟩

namespace Comparison

/-- A comparison with a name and a value that can be read. -/
structure Readable (c : Comparison) : Prop where
  name : IsName c.name
  value : IsValue c.value

/-- The comparison with more text at the end of its value. -/
def extend (c : Comparison) (w : Text) : Comparison :=
  { c with value := c.value ++ w }

/-- The comparison without blanks at the end of its value. -/
def trim (c : Comparison) : Comparison :=
  { c with value := c.value.trimEnd }

theorem Readable.extend {c : Comparison} (h : c.Readable) {w : Text} (hw : w.AllBlank) :
    (c.extend w).Readable :=
  ⟨h.name, isValue_append.mpr ⟨h.value, isValue_of_allBlank hw⟩⟩

theorem Readable.trim {c : Comparison} (h : c.Readable) : c.trim.Readable := by
  have hv := h.value
  rw [← c.value.trimEnd_append_trailingBlanks] at hv
  exact ⟨h.name, (isValue_append.mp hv).1⟩

end Comparison

theorem Connective.admits_of_ne_not {α : Type} {kind : Connective} (h : kind ≠ .not) {l : List α}
    (hl : l ≠ []) : kind.admits l.length = true := by
  cases kind with
  | and => simpa [admits] using hl
  | or => simpa [admits] using hl
  | not => exact absurd rfl h

theorem Connective.ne_nil_of_admits {α : Type} {kind : Connective} {l : List α}
    (h : kind.admits l.length = true) : l ≠ [] := by
  rintro rfl
  cases kind <;> simp [admits] at h

namespace Filter

/-- The filter with more text at the end of its value, if it is a comparison. -/
def extend (w : Text) : Filter → Filter
  | comparison c => .comparison (c.extend w)
  | group kind children => .group kind children

@[simp] theorem levels_extend (w : Text) (f : Filter) : (f.extend w).levels = f.levels := by
  cases f <;> rfl

@[simp] theorem extend_nil (f : Filter) : f.extend [] = f := by
  cases f with
  | comparison c => simp [extend, Comparison.extend]
  | group kind children => rfl

/-! ### The rules -/

/-- `item = name ws operator value` -/
inductive ItemForm : Text → Comparison → Prop
  | mk {c : Comparison} {w : Text} : c.Readable → w.AllBlank →
      ItemForm (c.name ++ w ++ c.operator.symbol ++ c.value) c

mutual

/-- `filter = "(" ws body ws ")"` -/
inductive FilterForm : Text → Filter → Prop
  | parens {w s w' : Text} {f : Filter} : w.AllBlank → BodyForm s f → w'.AllBlank →
      FilterForm ('(' :: w ++ s ++ w' ++ [')']) (f.extend w')

/-- `body = "&" list / "|" list / "!" ws filter / item` -/
inductive BodyForm : Text → Filter → Prop
  | list {kind : Connective} {s : Text} {fs : List Filter} : kind ≠ .not → ListForm s fs →
      BodyForm (kind.symbol :: s) (.group kind fs)
  | neg {w s : Text} {f : Filter} : w.AllBlank → FilterForm s f →
      BodyForm ('!' :: w ++ s) (.group .not [f])
  | item {s : Text} {c : Comparison} : ItemForm s c → BodyForm s (.comparison c)

/-- `list = 1*( ws filter ) ws` -/
inductive ListForm : Text → List Filter → Prop
  | one {w s w' : Text} {f : Filter} : w.AllBlank → FilterForm s f → w'.AllBlank →
      ListForm (w ++ s ++ w') [f]
  | cons {w s t : Text} {f : Filter} {fs : List Filter} : w.AllBlank → FilterForm s f →
      ListForm t fs → ListForm (w ++ s ++ t) (f :: fs)

end

/-- `input = ws ( filter / item ) ws` -/
inductive InputForm : Text → Filter → Prop
  | filter {w s w' : Text} {f : Filter} : w.AllBlank → FilterForm s f → w'.AllBlank →
      InputForm (w ++ s ++ w') f
  | item {w s w' : Text} {c : Comparison} : w.AllBlank → ItemForm s c → w'.AllBlank →
      InputForm (w ++ s ++ w') (.comparison c.trim)

/-! ### How forms begin and end -/

theorem ItemForm.exists_cons {s : Text} {c : Comparison} (h : ItemForm s c) :
    ∃ a t, s = a :: t ∧ NameChar a := by
  obtain ⟨hc, -⟩ := h
  obtain ⟨hne, hname⟩ := hc.name
  cases hs : c.name with
  | nil => exact absurd hs hne
  | cons a t => exact ⟨a, _, rfl, hname a (by simp [hs])⟩

theorem ItemForm.extend {s w : Text} {c : Comparison} (h : ItemForm s c) (hw : w.AllBlank) :
    ItemForm (s ++ w) (c.extend w) := by
  obtain ⟨hc, hv⟩ := h
  rw [List.append_assoc]
  exact .mk (hc.extend hw) hv

theorem FilterForm.exists_cons {s : Text} {f : Filter} (h : FilterForm s f) :
    ∃ t, s = '(' :: t := by
  cases h with
  | parens hw hs hw' => exact ⟨_, rfl⟩

theorem FilterForm.trimStart_append {w s : Text} {f : Filter} (h : FilterForm s f)
    (hw : w.AllBlank) (t : Text) : Text.trimStart (w ++ s ++ t) = s ++ t := by
  obtain ⟨u, rfl⟩ := h.exists_cons
  rw [List.append_assoc, Text.trimStart_append hw]
  exact Text.trimStart_of_stopsAt (Text.stopsAt_cons.mpr (by decide))

theorem FilterForm.exists_concat {s : Text} {f : Filter} (h : FilterForm s f) :
    ∃ t, s = t ++ [')'] := by
  cases h with
  | parens hw hs hw' => exact ⟨_, rfl⟩

theorem BodyForm.stopsAt_append {s : Text} {f : Filter} (h : BodyForm s f) (t : Text) :
    (s ++ t).StopsAt Text.isBlank := by
  cases h with
  | @list kind _ _ _ hs => cases kind <;> exact Text.stopsAt_cons.mpr (by decide)
  | neg hw hs => exact Text.stopsAt_cons.mpr (by decide)
  | item hs =>
      obtain ⟨a, u, rfl, ha⟩ := hs.exists_cons
      simpa using not_isBlank_of_nameChar ha

theorem BodyForm.trimStart_append {w s : Text} {f : Filter} (h : BodyForm s f)
    (hw : w.AllBlank) (t : Text) : Text.trimStart (w ++ s ++ t) = s ++ t := by
  rw [List.append_assoc, Text.trimStart_append hw, Text.trimStart_of_stopsAt (h.stopsAt_append t)]

theorem ListForm.ne_nil {s : Text} {fs : List Filter} (h : ListForm s fs) : fs ≠ [] := by
  cases h <;> simp

theorem ListForm.length_le {s : Text} {fs : List Filter} (h : ListForm s fs) :
    fs.length ≤ s.length := by
  induction fs generalizing s with
  | nil => exact Nat.zero_le _
  | cons f fs ih =>
      cases h with
      | one hw hs hw' =>
          obtain ⟨t, rfl⟩ := hs.exists_cons
          simp only [List.length_append, List.length_cons, List.length_nil]
          omega
      | cons hw hs ht =>
          obtain ⟨t, rfl⟩ := hs.exists_cons
          have := ih ht
          simp only [List.length_append, List.length_cons]
          omega

theorem ListForm.blank_append {w s : Text} {fs : List Filter} (hw : w.AllBlank)
    (h : ListForm s fs) : ListForm (w ++ s) fs := by
  cases h with
  | one hv hs hw' => simpa using ListForm.one (Text.allBlank_append.mpr ⟨hw, hv⟩) hs hw'
  | cons hv hs ht => simpa using ListForm.cons (Text.allBlank_append.mpr ⟨hw, hv⟩) hs ht

theorem ListForm.append_blank {s w : Text} {fs : List Filter} (h : ListForm s fs)
    (hw : w.AllBlank) : ListForm (s ++ w) fs := by
  induction fs generalizing s with
  | nil => exact absurd rfl h.ne_nil
  | cons f fs ih =>
      cases h with
      | one hv hs hw' => simpa using ListForm.one hv hs (Text.allBlank_append.mpr ⟨hw', hw⟩)
      | cons hv hs ht => simpa using ListForm.cons hv hs (ih ht)

/-! ### What forms denote -/

/-- All comparisons of the tree can be read, and every group holds as many members as its kind
admits. -/
def Readable (f : Filter) : Prop :=
  f.Every Comparison.Readable fun kind n => kind.admits n = true

theorem Readable.extend {f : Filter} (h : f.Readable) {w : Text} (hw : w.AllBlank) :
    (f.extend w).Readable := by
  cases h with
  | comparison hc => exact .comparison (hc.extend hw)
  | group hn hc => exact .group hn hc

theorem ItemForm.readable {s : Text} {c : Comparison} (h : ItemForm s c) : c.Readable := by
  obtain ⟨hc, -⟩ := h
  exact hc

mutual

theorem FilterForm.readable {s : Text} {f : Filter} : FilterForm s f → f.Readable
  | .parens _ hs hw' => hs.readable.extend hw'

theorem BodyForm.readable {s : Text} {f : Filter} : BodyForm s f → f.Readable
  | .list hkind hs => .group (Connective.admits_of_ne_not hkind hs.ne_nil) hs.readable
  | .neg _ hs => .group rfl (List.forall_mem_singleton.mpr hs.readable)
  | .item hs => .comparison hs.readable

theorem ListForm.readable {s : Text} {fs : List Filter} : ListForm s fs → ∀ f ∈ fs, f.Readable
  | .one _ hs _ => by simpa using hs.readable
  | .cons _ hs ht => List.forall_mem_cons.mpr ⟨hs.readable, ht.readable⟩

end

theorem InputForm.readable {s : Text} {f : Filter} (h : InputForm s f) : f.Readable := by
  cases h with
  | filter _ hs _ => exact hs.readable
  | item _ hs _ => exact .comparison hs.readable.trim

end Filter
end SearchFilter
