import SearchFilter.Proofs.Report.Colors
import SearchFilter.Proofs.Report.Columns
import SearchFilter.Proofs.Report.Selections

/-! # Tables in color

The marks are the only cells of a report in color.  A color adds nine columns to the width of a cell
and none to what is seen of it, so the column of the marks is made for cells that are nine columns
wider than those in it: each row is nine columns short of the lines above and below
(`uncolored_text`).  Without records there is no mark, and the report in color shows what the plain
one says; with records it never does (`uncolored_text_eq_iff`). -/

namespace SearchFilter.Selection

open Color Table

variable {sel : Selection} {records : List Entry} {f : Filter} {policy : OrderPolicy}
variable {column column' cell cell' : Nat}

/-! ### The parts of a report -/

def columnNames : List Text := ["#".toList, "Matched".toList, "Record".toList]

/-- The mark of the record with the given index. -/
def mark (sel : Selection) (color : Bool) (index : Nat) : Text :=
  if sel.contains index then green.paint color "yes".toList else red.paint color "no".toList

def marks (sel : Selection) (color : Bool) (records : List Entry) : List Text :=
  records.zipIdx.map fun place => sel.mark color place.2

/-- The line below the table. -/
def summary (sel : Selection) : Text :=
  Text.ofNat sel.indices.length ++ " of ".toList ++ Text.ofNat sel.total
    ++ " records matched\n".toList

/-- The report around the lines of a table. -/
def around (sel : Selection) (filter : Text) (table : List Text) : Text :=
  "Filter: ".toList ++ (filter ++ (['\n'] ++ ((table.intersperse ['\n']).flatten
    ++ (['\n'] ++ sel.summary))))

def indexWidth (records : List Entry) : Nat :=
  columnWidth 1 (records.zipIdx.map fun place => Text.ofNat place.2)

def recordWidth (records : List Entry) : Nat :=
  columnWidth 6 (records.zipIdx.map fun place => place.1.text)

/-- The report without colors, the column of the marks being `column` wide in the header and in the
lines of strokes and `cell` wide in the rows. -/
def textAt (sel : Selection) (column cell : Nat) (records : List Entry) : Text :=
  sel.around sel.filter (drawn [indexWidth records, column, recordWidth records]
    [indexWidth records, cell, recordWidth records] columnNames (sel.rows false 0 records))

theorem text_eq_around (sel : Selection) (color : Bool) (records : List Entry) :
    sel.text color records =
      sel.around (cyan.paint color sel.filter) (lines columnNames (sel.rows color 0 records)) := by
  unfold text around summary render columnNames
  simp only [List.append_assoc, List.cons_append, List.nil_append]

theorem rows_eq_map (sel : Selection) (color : Bool) (index : Nat) (records : List Entry) :
    sel.rows color index records =
      (records.zipIdx index).map fun place =>
        [Text.ofNat place.2, sel.mark color place.2, place.1.text] := by
  induction records generalizing index with
  | nil => rfl
  | cons e es ih =>
      rw [rows, ih, List.zipIdx_cons, List.map_cons]
      rfl

/-- Only the width of the marks depends on the color. -/
theorem columnWidths_rows (sel : Selection) (color : Bool) (records : List Entry) :
    columnWidths (columnNames :: sel.rows color 0 records) =
      [indexWidth records, columnWidth 7 (sel.marks color records), recordWidth records] := by
  rw [rows_eq_map]
  exact columnWidths_triples _ _ _ _ _ _ _

/-! ### The column of the marks -/

theorem width_mark_true (sel : Selection) (index : Nat) :
    Text.width (sel.mark true index) = if sel.contains index then 12 else 11 := by
  unfold mark
  split
  · exact width_paint green (by decide) rfl
  · exact width_paint red (by decide) rfl

theorem width_mark_false_le (sel : Selection) (index : Nat) :
    Text.width (sel.mark false index) ≤ 7 := by
  unfold mark
  split <;> decide

theorem mark_mem_marks {i : Nat} {e : Entry} (h : records[i]? = some e) (color : Bool) :
    sel.mark color i ∈ sel.marks color records :=
  List.mem_map.mpr ⟨(e, i), List.mk_mem_zipIdx_iff_getElem?.mpr h, rfl⟩

theorem width_le_of_mem_marks {color : Bool} {n : Nat}
    (h : ∀ i, Text.width (sel.mark color i) ≤ n) :
    ∀ s ∈ sel.marks color records, Text.width s ≤ n := by
  intro s hs
  obtain ⟨place, -, rfl⟩ := List.mem_map.mp hs
  exact h place.2

theorem columnWidth_marks_false (sel : Selection) (records : List Entry) :
    columnWidth 7 (sel.marks false records) = 7 :=
  columnWidth_eq (width_le_of_mem_marks sel.width_mark_false_le) (Nat.le_refl 7) (.inl rfl)

theorem columnWidth_marks_of_contains {i : Nat} {e : Entry} (he : records[i]? = some e)
    (hi : sel.contains i = true) : columnWidth 7 (sel.marks true records) = 12 := by
  have hle : ∀ i, Text.width (sel.mark true i) ≤ 12 := by
    intro i
    rw [width_mark_true]
    split <;> omega
  have hwidest : Text.width (sel.mark true i) = 12 := by rw [width_mark_true, if_pos hi]
  apply columnWidth_eq (width_le_of_mem_marks hle) (by omega)
  exact .inr ⟨_, mark_mem_marks he true, hwidest⟩

theorem columnWidth_marks_of_not_contains (hrecords : records ≠ [])
    (h : ∀ i, ¬ sel.contains i = true) : columnWidth 7 (sel.marks true records) = 11 := by
  have hwidth : ∀ i, Text.width (sel.mark true i) = 11 := by
    intro i
    rw [width_mark_true, if_neg (h i)]
  obtain ⟨e, es, rfl⟩ := List.exists_cons_of_ne_nil hrecords
  have hfirst : (e :: es)[0]? = some e := rfl
  apply columnWidth_eq (width_le_of_mem_marks fun i => Nat.le_of_eq (hwidth i)) (by omega)
  exact .inr ⟨_, mark_mem_marks hfirst true, hwidth 0⟩

/-- In color the name of the column is narrower than every mark. -/
theorem columnWidth_marks_true (f : Filter) (records : List Entry) (policy : OrderPolicy) :
    let sel := Selection.of f records policy
    columnWidth 7 (sel.marks true records) =
      if records.isEmpty then 7 else if sel.indices.isEmpty then 11 else 12 := by
  intro sel
  have hcontains : ∀ i, sel.contains i = true ↔ i ∈ sel.indices := fun _ =>
    contains_iff_mem (ascending_indicesFrom 0 records)
  by_cases hrecords : records = []
  · subst hrecords
    rfl
  rw [if_neg (by simpa using hrecords)]
  by_cases hindices : sel.indices = []
  · rw [if_pos (by simpa using hindices)]
    apply columnWidth_marks_of_not_contains hrecords
    intro i
    rw [hcontains, hindices]
    exact List.not_mem_nil
  · rw [if_neg (by simpa using hindices)]
    obtain ⟨i, hi⟩ := List.exists_mem_of_ne_nil _ hindices
    obtain ⟨e, he, -⟩ := mem_indicesFrom_iff.mp hi
    exact columnWidth_marks_of_contains he ((hcontains i).mpr hi)

/-! ### What is seen -/

theorem text_false (sel : Selection) (records : List Entry) :
    sel.text false records = sel.textAt 7 7 records := by
  rw [text_eq_around, lines_eq_drawn, columnWidths_rows, columnWidth_marks_false]
  rfl

theorem shows_of_controlFree {s : Text} (h : s.ControlFree) : Shows s s :=
  shows_self (h.not_mem (by decide))

/-- The columns that a cell loses to its color are missing among the blanks behind its text. -/
theorem shows_cell_paint (hue : Color) {s : Text} (h : '\x1b' ∉ s)
    (hs : s.all Text.isNarrow = true) (w : Nat) :
    Shows (Table.cell w (hue.paint true s)) (Table.cell (w - 9) s) := by
  have hfill : w - (Text.width s + 9) + 1 = w - 9 - Text.width s + 1 := by omega
  have hblank : Shows [' '] [' '] := shows_of_controlFree (by decide)
  have hblanks : ∀ n, Shows (List.replicate n ' ') (List.replicate n ' ') := fun n =>
    shows_of_controlFree (Text.controlFree_replicate (by decide) n)
  unfold Table.cell
  rw [width_paint hue h hs, hfill]
  exact (hblank.append (shows_paint hue h)).append (hblanks _)

theorem shows_cell_mark (sel : Selection) (w index : Nat) :
    Shows (Table.cell w (sel.mark true index)) (Table.cell (w - 9) (sel.mark false index)) := by
  unfold mark
  split
  · exact shows_cell_paint green (by decide) rfl w
  · exact shows_cell_paint red (by decide) rfl w

theorem shows_row (sel : Selection) (w v u index : Nat) (e : Entry) :
    Shows (line [w, v, u] [Text.ofNat index, sel.mark true index, e.text])
      (line [w, v - 9, u] [Text.ofNat index, sel.mark false index, e.text]) := by
  have hindex := shows_of_controlFree (controlFree_cell (Text.controlFree_ofNat index) w)
  have htext := shows_of_controlFree (controlFree_cell (Json.controlFree_compact e.toJson) u)
  have hstroke : Shows ['|'] ['|'] := shows_of_controlFree (by decide)
  rw [line_triple, line_triple]
  exact hstroke.append (hindex.append (hstroke.append ((sel.shows_cell_mark v index).append
    (hstroke.append (htext.append hstroke)))))

/-- Header and strokes are seen as they are, rows with narrower marks. -/
theorem forall₂_shows_drawn (sel : Selection) (w v u : Nat) (records : List Entry) :
    List.Forall₂ Shows (drawn [w, v, u] [w, v, u] columnNames (sel.rows true 0 records))
      (drawn [w, v, u] [w, v - 9, u] columnNames (sel.rows false 0 records)) := by
  have hrule : ∀ {edge stroke joint : Char}, Text.ControlFree [edge, stroke, joint] →
      Shows (rule edge stroke joint [w, v, u]) (rule edge stroke joint [w, v, u]) := fun h =>
    shows_of_controlFree (controlFree_rule h w v u)
  have hheader : Shows (line [w, v, u] columnNames) (line [w, v, u] columnNames) := by
    apply shows_of_controlFree
    unfold columnNames
    rw [line_triple]
    simp [controlFree_cell]
  have hrows : List.Forall₂ Shows ((sel.rows true 0 records).map (line [w, v, u]))
      ((sel.rows false 0 records).map (line [w, v - 9, u])) := by
    simp only [rows_eq_map, List.map_map, List.forall₂_map_left_iff, List.forall₂_map_right_iff,
      List.forall₂_same]
    exact fun place _ => sel.shows_row w v u place.2 place.1
  have hborder : Shows (rule '+' '-' '+' [w, v, u]) (rule '+' '-' '+' [w, v, u]) :=
    hrule (by decide)
  unfold drawn
  refine List.rel_append (List.rel_append ?_ (forall₂_intersperse (hrule (by decide)) hrows))
    (.cons hborder .nil)
  exact .cons hborder (.cons hheader (.cons (hrule (by decide)) .nil))

/-- In color the marks fill all but nine of the columns that their column takes. -/
theorem uncolored_text (h : '\x1b' ∉ sel.filter) (records : List Entry) :
    let column := columnWidth 7 (sel.marks true records)
    uncolored (sel.text true records) = sel.textAt column (column - 9) records := by
  intro column
  have hbreak : Shows ['\n'] ['\n'] := shows_self (by decide)
  have htable := shows_flatten (forall₂_intersperse hbreak
    (sel.forall₂_shows_drawn (indexWidth records) column (recordWidth records) records))
  have hheading : Shows "Filter: ".toList "Filter: ".toList := shows_self (by decide)
  have hsummary : Shows sel.summary sel.summary := by
    have hcount := fun n => Text.ControlFree.not_mem (Text.controlFree_ofNat n)
      (show '\x1b'.toNat < 0x20 by decide)
    apply shows_self
    unfold summary
    simp [hcount]
  rw [text_eq_around, lines_eq_drawn, columnWidths_rows]
  exact Shows.uncolored_eq (hheading.append ((shows_paint cyan h).append
    (hbreak.append (htable.append (hbreak.append hsummary)))))

/-! ### When the colors make a difference -/

/-- The report shows how wide the column of the marks is. -/
theorem eq_of_textAt_eq (h : sel.textAt column cell records = sel.textAt column' cell' records) :
    column = column' := by
  unfold textAt around drawn at h
  simp only [List.cons_append, List.nil_append, List.intersperse_cons_cons, List.flatten_cons,
    List.append_assoc, List.append_cancel_left_eq, List.cons.injEq, true_and] at h
  exact eq_of_border_append h

theorem textAt_nil (sel : Selection) (column cell cell' : Nat) :
    sel.textAt column cell [] = sel.textAt column cell' [] := rfl

/-- With records, what is seen of a report in color is never the report without colors. -/
theorem uncolored_text_ne (h : '\x1b' ∉ f.text) (hrecords : records ≠ []) :
    uncolored ((Selection.of f records policy).text true records) ≠
      (Selection.of f records policy).text false records := by
  intro heq
  rw [uncolored_text h, text_false, columnWidth_marks_true] at heq
  have hcolumn := eq_of_textAt_eq heq
  rw [if_neg (by simpa using hrecords)] at hcolumn
  split at hcolumn <;> omega

/-- **Colors widen a table with records.**  What is seen of a report in color differs from the
report without colors in nothing but blanks and strokes: the column of the marks is as wide as the
widest mark with its color sequences, and each mark fills it up to nine columns less.  The two are
the same exactly if there are no records. -/
theorem uncolored_text_eq_iff (f : Filter) (records : List Entry) (policy : OrderPolicy)
    (h : '\x1b' ∉ f.text) :
    let sel := Selection.of f records policy
    let column := if records.isEmpty then 7 else if sel.indices.isEmpty then 11 else 12
    uncolored (sel.text true records) = sel.textAt column (column - 9) records ∧
    sel.text false records = sel.textAt 7 7 records ∧
    (uncolored (sel.text true records) = sel.text false records ↔ records = []) := by
  intro sel column
  have hcolumn : columnWidth 7 (sel.marks true records) = column :=
    columnWidth_marks_true f records policy
  have huncolored : uncolored (sel.text true records) = sel.textAt column (column - 9) records := by
    rw [uncolored_text h, hcolumn]
  refine ⟨huncolored, text_false sel records, fun heq => ?_, ?_⟩
  · by_contra hrecords
    exact uncolored_text_ne h hrecords heq
  · rintro rfl
    rw [huncolored, text_false]
    exact textAt_nil sel 7 (7 - 9) 7

/-- A record that the filter selects and one that it does not: the column of the marks is twelve
columns wide, and each mark fills three. -/
theorem uncolored_text_eq_iff_mixed :
    let f : Filter := .comparison ⟨['a'], .equality, ['1']⟩
    let records := [Entry.empty.insert ['a'] (.single (.integer 1)), Entry.empty]
    let sel := Selection.of f records .natural
    '\x1b' ∉ f.text ∧ uncolored (sel.text true records) = sel.textAt 12 3 records ∧
      sel.text false records = sel.textAt 7 7 records ∧
      uncolored (sel.text true records) ≠ sel.text false records := by
  intro f records sel
  have hf : '\x1b' ∉ f.text := by decide
  obtain ⟨huncolored, hplain, hiff⟩ := uncolored_text_eq_iff f records .natural hf
  have hindices : sel.indices.isEmpty = false := by decide
  rw [if_neg (by simp [records]), if_neg (by rw [hindices]; decide)] at huncolored
  refine ⟨hf, huncolored, hplain, fun heq => ?_⟩
  exact absurd (hiff.mp heq) (by simp [records])

/-- One record that the filter selects: what is seen of the report in color is not the report
without colors. -/
theorem uncolored_text_ne_of_selected :
    let f : Filter := .comparison ⟨['a'], .equality, ['1']⟩
    let records := [Entry.empty.insert ['a'] (.single (.integer 1))]
    let sel := Selection.of f records .natural
    '\x1b' ∉ f.text ∧ uncolored (sel.text true records) ≠ sel.text false records := by
  intro f records sel
  have hf : '\x1b' ∉ f.text := by decide
  exact ⟨hf, uncolored_text_ne hf (List.cons_ne_nil _ _)⟩

end SearchFilter.Selection
