import Mathlib.Data.List.Basic
import SearchFilter.Proofs.Json.Controls
import SearchFilter.Report.Table

/-! # Columns of a table

The columns of a table are measured apart from each other: each is as wide as the widest of its
cells (`columnWidth_eq`, `columnWidths_triples`).  A table is drawn once these widths are known, and
they are used in two places: the header and the lines of strokes show how wide a column is, and the
rows fill their cells up to it.  `drawn` keeps the two apart; the table of the library is the one in
which they agree (`lines_eq_drawn`).  The width of a column can be read off the first line
(`eq_of_border_append`). -/

namespace SearchFilter.Table

variable {α : Type} {n w v v' u u' : Nat} {cells : List Text} {s t : Text}

/-! ### Widths -/

def columnWidth (w : Nat) (cells : List Text) : Nat :=
  cells.foldl (fun w s => max w (Text.width s)) w

theorem columnWidth_eq (hle : ∀ s ∈ cells, Text.width s ≤ n) (hw : w ≤ n)
    (hwidest : w = n ∨ ∃ s ∈ cells, Text.width s = n) : columnWidth w cells = n := by
  induction cells generalizing w with
  | nil =>
      rcases hwidest with rfl | ⟨s, hs, -⟩
      · rfl
      · cases hs
  | cons s cells ih =>
      obtain ⟨hs, hcells⟩ := List.forall_mem_cons.mp hle
      show columnWidth (max w (Text.width s)) cells = n
      apply ih hcells (by omega)
      rcases hwidest with rfl | ⟨t, ht, htn⟩
      · left; omega
      · rcases List.mem_cons.mp ht with rfl | ht
        · left; omega
        · exact .inr ⟨t, ht, htn⟩

/-- The widths of the columns once more rows are taken in. -/
def widened (widths : List Nat) (rows : List (List Text)) : List Nat :=
  rows.foldl (fun widths row => widest widths (row.map Text.width)) widths

theorem columnWidths_cons (row : List Text) (rows : List (List Text)) :
    columnWidths (row :: rows) = widened (row.map Text.width) rows := by
  unfold columnWidths widened
  rw [List.foldl_cons]
  cases row <;> rfl

theorem widened_nil (xs : List α) : widened [] (xs.map fun _ => []) = [] := by
  induction xs with
  | nil => rfl
  | cons _ xs ih => exact ih

theorem widened_cons (cell : α → Text) (others : α → List Text) (w : Nat) (widths : List Nat)
    (xs : List α) :
    widened (w :: widths) (xs.map fun x => cell x :: others x) =
      columnWidth w (xs.map cell) :: widened widths (xs.map others) := by
  induction xs generalizing w widths with
  | nil => rfl
  | cons x xs ih =>
      exact ih (max w (Text.width (cell x))) (widest widths ((others x).map Text.width))

theorem columnWidths_triples (a b c : Text) (f g h : α → Text) (xs : List α) :
    columnWidths ([a, b, c] :: xs.map fun x => [f x, g x, h x]) =
      [columnWidth (Text.width a) (xs.map f), columnWidth (Text.width b) (xs.map g),
        columnWidth (Text.width c) (xs.map h)] := by
  rw [columnWidths_cons, List.map_cons, widened_cons f, List.map_cons, widened_cons g,
    List.map_cons, widened_cons h, List.map_nil, widened_nil]

/-! ### Drawings -/

/-- The lines of a table with columns of the given widths, in the rows of which the cells are filled
up to other widths. -/
def drawn (widths cellWidths : List Nat) (header : List Text) (rows : List (List Text)) :
    List Text :=
  let border := rule '+' '-' '+' widths
  [border, line widths header, rule '+' '=' '=' widths]
    ++ (rows.map (line cellWidths)).intersperse (rule '|' '-' '+' widths) ++ [border]

theorem lines_eq_drawn (header : List Text) (rows : List (List Text)) :
    lines header rows =
      drawn (columnWidths (header :: rows)) (columnWidths (header :: rows)) header rows := rfl

theorem rule_triple (edge stroke joint : Char) (w v u : Nat) :
    rule edge stroke joint [w, v, u] =
      edge :: (List.replicate (w + 2) stroke ++ joint :: (List.replicate (v + 2) stroke ++
        joint :: (List.replicate (u + 2) stroke ++ [edge]))) := by
  simp [rule, List.intersperse]

theorem line_triple (w v u : Nat) (a b c : Text) :
    line [w, v, u] [a, b, c] =
      ['|'] ++ (cell w a ++ (['|'] ++ (cell v b ++ (['|'] ++ (cell u c ++ ['|']))))) := by
  simp [line, List.intersperse]

/-- Two runs of a character that ends at another one are equally long. -/
theorem eq_of_replicate_append_cons {c d : Char} (hcd : c ≠ d) {m n : Nat}
    (h : List.replicate m c ++ d :: s = List.replicate n c ++ d :: t) : m = n := by
  induction m generalizing n with
  | zero =>
      cases n with
      | zero => rfl
      | succ n => simp [List.replicate_succ, hcd.symm] at h
  | succ m ih =>
      cases n with
      | zero => simp [List.replicate_succ, hcd] at h
      | succ n =>
          simp only [List.replicate_succ, List.cons_append, List.cons.injEq, true_and] at h
          rw [ih h]

/-- The first line of a table shows how wide its second column is. -/
theorem eq_of_border_append
    (h : rule '+' '-' '+' [w, v, u] ++ s = rule '+' '-' '+' [w, v', u'] ++ t) : v = v' := by
  simp only [rule_triple, List.cons_append, List.append_assoc, List.cons.injEq, true_and,
    List.append_cancel_left_eq] at h
  have hruns : v + 2 = v' + 2 := eq_of_replicate_append_cons (by decide) h
  omega

/-! ### Control characters -/

theorem controlFree_rule {edge stroke joint : Char}
    (h : Text.ControlFree [edge, stroke, joint]) (w v u : Nat) :
    (rule edge stroke joint [w, v, u]).ControlFree := by
  simp only [Text.controlFree_cons] at h
  obtain ⟨hedge, hstroke, hjoint, -⟩ := h
  rw [rule_triple]
  simp [hedge, hjoint, Text.controlFree_replicate hstroke]

theorem controlFree_cell (h : s.ControlFree) (w : Nat) : (cell w s).ControlFree := by
  have hblanks := fun n => Text.controlFree_replicate (show 0x20 ≤ ' '.toNat by decide) n
  unfold cell
  simp [h, hblanks]

end SearchFilter.Table
