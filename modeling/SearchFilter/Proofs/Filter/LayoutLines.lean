import Mathlib.Data.List.Basic
import SearchFilter.Proofs.Filter.Layouts

/-! # The lines of a layout

A layout puts one piece of a filter on each line: a comparison, a negation with all that is below
it, or one of the two ends of a conjunction or disjunction (`pieces`).  The members of a group stand
one level deeper than its ends, so the level of a line counts the groups that are open there
(`levels_pieces`).  If the filter and the fill hold no line feed, the line feeds of the layout are
those between the pieces, and each line is the indentation of its level and one piece
(`splitOn_layOut`).  The pieces on one line are the text of the filter (`flatten_pieces`), which is
also all that a layout of width zero writes (`layOut_of_width_eq_zero`). -/

namespace SearchFilter
namespace Filter

/-! ### Pieces -/

mutual

/-- The pieces of a filter that is laid out over several lines from the given level, each with the
level of its line. -/
def pieces (level : Nat) : Filter → List (Nat × Text)
  | comparison c => [(level, c.text)]
  | group kind children =>
    if kind = .not then [(level, text (.group kind children))]
    else (level, ['(', kind.symbol]) :: piecesAll (level + 1) children ++ [(level, [')'])]

def piecesAll (level : Nat) : List Filter → List (Nat × Text)
  | [] => []
  | f :: fs => pieces level f ++ piecesAll level fs

end

theorem piecesAll_eq_flatMap (level : Nat) (fs : List Filter) :
    piecesAll level fs = fs.flatMap (pieces level) := by
  induction fs with
  | nil => rfl
  | cons f fs ih => rw [piecesAll, ih, List.flatMap_cons]

theorem pieces_not (level : Nat) (fs : List Filter) :
    pieces level (.group .not fs) = [(level, text (.group .not fs))] := by
  rw [pieces, if_pos rfl]

theorem pieces_of_ne_not {kind : Connective} (hkind : kind ≠ .not) (level : Nat)
    (fs : List Filter) :
    pieces level (.group kind fs) =
      (level, ['(', kind.symbol]) :: fs.flatMap (pieces (level + 1)) ++ [(level, [')'])] := by
  rw [pieces, if_neg hkind, piecesAll_eq_flatMap]

theorem text_group (kind : Connective) (fs : List Filter) :
    text (.group kind fs) = '(' :: kind.symbol :: fs.flatMap text ++ [')'] := by
  rw [text, textAll_eq_flatMap]

/-- The pieces without the line feeds and the indentation are the filter on one line. -/
theorem flatten_pieces (level : Nat) (f : Filter) :
    ((f.pieces level).map Prod.snd).flatten = f.text := by
  induction f generalizing level with
  | comparison c => simp [pieces, text]
  | group kind children ih =>
      by_cases hkind : kind = .not
      · subst hkind
        simp [pieces_not]
      · have hchildren : ((children.flatMap (pieces (level + 1))).map Prod.snd).flatten =
            children.flatMap text := by
          rw [List.map_flatMap, List.flatten_eq_flatMap, List.flatMap_assoc]
          refine List.flatMap_congr fun f hf => ?_
          rw [← List.flatten_eq_flatMap, ih f hf]
        rw [pieces_of_ne_not hkind, text_group]
        simp [hchildren]

/-! ### Levels -/

/-- The levels of lines that hold the given pieces: a piece that opens a group raises the level for
the lines after it, and one that closes a group lowers it again. -/
def levelsFrom : Nat → List Text → List Nat
  | _, [] => []
  | level, piece :: rest =>
    if piece ∈ [['(', '&'], ['(', '|']] then level :: levelsFrom (level + 1) rest
    else if piece = [')'] then (level - 1) :: levelsFrom (level - 1) rest
    else level :: levelsFrom level rest

/-- Only a group over several lines is opened and closed by pieces of its own. -/
theorem levelsFrom_cons_of_length {piece : Text} (h : 2 < piece.length) (level : Nat)
    (rest : List Text) : levelsFrom level (piece :: rest) = level :: levelsFrom level rest := by
  have hopen : piece ∉ [['(', '&'], ['(', '|']] := by
    intro hmem
    simp only [List.mem_cons, List.not_mem_nil, or_false] at hmem
    rcases hmem with rfl | rfl <;> simp at h
  have hclose : piece ≠ [')'] := by
    rintro rfl
    simp at h
  rw [levelsFrom, if_neg hopen, if_neg hclose]

theorem two_lt_length_text_comparison (c : Comparison) : 2 < c.text.length := by
  have hsymbol : 0 < c.operator.symbol.length := by cases c.operator <;> decide
  simp only [Comparison.text, List.length_append, List.length_cons, List.length_nil]
  omega

theorem two_lt_length_text_group (kind : Connective) (fs : List Filter) :
    2 < (text (.group kind fs)).length := by
  simp [text_group]

theorem levelsFrom_flatMap_append {level : Nat} {fs : List Filter}
    (h : ∀ f ∈ fs, ∀ rest, levelsFrom level ((f.pieces level).map Prod.snd ++ rest) =
      (f.pieces level).map Prod.fst ++ levelsFrom level rest) (rest : List Text) :
    levelsFrom level ((fs.flatMap (pieces level)).map Prod.snd ++ rest) =
      (fs.flatMap (pieces level)).map Prod.fst ++ levelsFrom level rest := by
  induction fs with
  | nil => rfl
  | cons f fs ih =>
      obtain ⟨hf, hfs⟩ := List.forall_mem_cons.mp h
      rw [List.flatMap_cons, List.map_append, List.append_assoc, hf, ih hfs, List.map_append,
        List.append_assoc]

/-- After the pieces of a filter the level is the one before them. -/
theorem levelsFrom_pieces_append (level : Nat) (f : Filter) (rest : List Text) :
    levelsFrom level ((f.pieces level).map Prod.snd ++ rest) =
      (f.pieces level).map Prod.fst ++ levelsFrom level rest := by
  induction f generalizing level rest with
  | comparison c => exact levelsFrom_cons_of_length (two_lt_length_text_comparison c) level rest
  | group kind children ih =>
      by_cases hkind : kind = .not
      · subst hkind
        rw [pieces_not]
        exact levelsFrom_cons_of_length (two_lt_length_text_group .not children) level rest
      · have hopen : ['(', kind.symbol] ∈ [['(', '&'], ['(', '|']] := by
          cases kind with
          | and => decide
          | or => decide
          | not => exact absurd rfl hkind
        have hclose : levelsFrom (level + 1) ([')'] :: rest) = level :: levelsFrom level rest := rfl
        have hchildren := levelsFrom_flatMap_append fun f hf rest => ih f hf (level + 1) rest
        rw [pieces_of_ne_not hkind, List.map_append, List.map_cons, List.append_assoc,
          List.cons_append, levelsFrom, if_pos hopen, hchildren]
        simp [hclose]

/-- The level of every line counts the groups that are open there, from the level that the layout
begins with. -/
theorem levels_pieces (level : Nat) (f : Filter) :
    (f.pieces level).map Prod.fst = levelsFrom level ((f.pieces level).map Prod.snd) := by
  have h := levelsFrom_pieces_append level f []
  rw [List.append_nil, levelsFrom, List.append_nil] at h
  exact h.symm

/-! ### Lines -/

/-- No name and no value of the filter holds a line feed. -/
def NoLineFeed (f : Filter) : Prop :=
  f.Every (fun c => '\n' ∉ c.name ∧ '\n' ∉ c.value) fun _ _ => True

theorem newline_not_mem_text {f : Filter} (h : f.NoLineFeed) : '\n' ∉ f.text := by
  induction h with
  | @comparison c hc =>
      have hsymbol : '\n' ∉ c.operator.symbol := by cases c.operator <;> decide
      simp [text, Comparison.text, hc.1, hc.2, hsymbol]
  | @group kind children _ _ ih =>
      have hsymbol : '\n' ≠ kind.symbol := by cases kind <;> decide
      have hchildren : '\n' ∉ children.flatMap text := by
        intro hmem
        obtain ⟨f, hf, htext⟩ := List.mem_flatMap.mp hmem
        exact ih f hf htext
      simp [text_group, hsymbol, hchildren]

theorem splitOn_append_flatMap {α : Type} (write : α → Text) (s : Text) (xs : List α) :
    Text.splitOn '\n' (s ++ xs.flatMap ('\n' :: write ·)) =
      Text.splitOn '\n' s ++ xs.flatMap fun x => Text.splitOn '\n' (write x) := by
  induction xs generalizing s with
  | nil => simp
  | cons x xs ih =>
      rw [List.flatMap_cons, List.cons_append, Text.splitOn_append_cons, ih, List.flatMap_cons]

section Lines
variable {l : Layout}

theorem newline_not_mem_indentation (hfill : l.fill ≠ '\n') (level : Nat) :
    '\n' ∉ l.indentation level := fun h => hfill (List.eq_of_mem_replicate h).symm

theorem splitOn_indentation_append (hfill : l.fill ≠ '\n') (level : Nat) {s : Text}
    (hs : '\n' ∉ s) :
    Text.splitOn '\n' (l.indentation level ++ s) = [l.indentation level ++ s] :=
  Text.splitOn_of_not_mem fun h =>
    (List.mem_append.mp h).elim (newline_not_mem_indentation hfill level) hs

/-- **The lines of a layout** are the pieces of the filter behind the indentation of their levels. -/
theorem splitOn_layOut_eq (hwidth : l.width ≠ 0) (hfill : l.fill ≠ '\n') {f : Filter}
    (h : f.NoLineFeed) (level : Nat) : Text.splitOn '\n' (f.layOut l level) =
      (f.pieces level).map fun line => l.indentation line.1 ++ line.2 := by
  induction h generalizing level with
  | @comparison c hc =>
      have hline := newline_not_mem_text (.comparison hc)
      rw [layOut_comparison]
      exact splitOn_indentation_append hfill level hline
  | @group kind children hn hchildren ih =>
      by_cases hkind : kind = .not
      · subst hkind
        have hline : '\n' ∉ text (.group .not children) :=
          newline_not_mem_text (.group hn hchildren)
        rw [layOut_group, if_pos (by simp), pieces_not]
        exact splitOn_indentation_append hfill level hline
      · have hlines : ¬ (l.isCompact || kind == .not) = true := by
          simp [Layout.isCompact, hwidth, hkind]
        have hsymbol : '\n' ≠ kind.symbol := by cases kind <;> decide
        have hopen : Text.splitOn '\n' (l.indentation level ++ ['(', kind.symbol]) =
            [l.indentation level ++ ['(', kind.symbol]] :=
          splitOn_indentation_append hfill level (by simp [hsymbol])
        have hclose : Text.splitOn '\n' (l.indentation level ++ [')']) =
            [l.indentation level ++ [')']] :=
          splitOn_indentation_append hfill level (by decide)
        have hmembers := List.flatMap_congr fun f hf => ih f hf (level + 1)
        calc Text.splitOn '\n' (layOut l level (.group kind children))
          _ = Text.splitOn '\n' ((l.indentation level ++ ['(', kind.symbol] ++
                children.flatMap ('\n' :: layOut l (level + 1) ·)) ++
                  '\n' :: (l.indentation level ++ [')'])) := by
              rw [layOut_group, if_neg hlines, layOutAll_eq_flatMap]
              simp
          _ = [l.indentation level ++ ['(', kind.symbol]] ++
                (children.flatMap fun f => Text.splitOn '\n' (layOut l (level + 1) f)) ++
                  [l.indentation level ++ [')']] := by
              rw [Text.splitOn_append_cons, splitOn_append_flatMap, hopen, hclose]
          _ = (pieces level (.group kind children)).map
                fun line => l.indentation line.1 ++ line.2 := by
              rw [hmembers, pieces_of_ne_not hkind, List.map_append, List.map_cons,
                List.map_flatMap]
              rfl

end Lines

theorem layOut_of_width_eq_zero {l : Layout} (h : l.width = 0) (level : Nat) (f : Filter) :
    f.layOut l level = f.text := by
  have hindent : l.indentation level = [] := by simp [Layout.indentation, h]
  cases f with
  | comparison c => rw [layOut_comparison, hindent, List.nil_append, text]
  | group kind children =>
      have hcompact : (l.isCompact || kind == .not) = true := by simp [Layout.isCompact, h]
      rw [layOut_group, if_pos hcompact, hindent, List.nil_append]

/-- **The law of layouts**: where neither the filter nor the fill holds a line feed, the lines of a
layout with a width are the pieces of the filter, each behind as many copies of the fill as its level
asks for.  The level of a line is the one that the layout begins with and one more for each group
that is open there, and the pieces together are the filter on one line.  Without a width nothing
but that line is written, from whatever level. -/
theorem splitOn_layOut (f : Filter) (level : Nat) :
    (∀ l : Layout, l.width ≠ 0 → l.fill ≠ '\n' → f.NoLineFeed →
      Text.splitOn '\n' (f.layOut l level) =
        (f.pieces level).map fun line => List.replicate (line.1 * l.width) l.fill ++ line.2) ∧
    (f.pieces level).map Prod.fst = levelsFrom level ((f.pieces level).map Prod.snd) ∧
    ((f.pieces level).map Prod.snd).flatten = f.text ∧
    ∀ l : Layout, l.width = 0 → f.layOut l level = f.text := by
  refine ⟨?_, levels_pieces level f, flatten_pieces level f, ?_⟩
  · intro l hwidth hfill hf
    exact splitOn_layOut_eq hwidth hfill hf level
  · intro l hwidth
    exact layOut_of_width_eq_zero hwidth level f

/-- A fill that looks like the beginning of a filter, and a group inside a negation. -/
theorem splitOn_layOut_nested :
    let l : Layout := ⟨2, '('⟩
    let f : Filter := .group .and [.group .not [.group .or [.comparison ⟨['a'], .equality, ['\r']⟩]],
      .group .or [.comparison ⟨['b'], .lessOrEqual, []⟩]]
    l.width ≠ 0 ∧ l.fill ≠ '\n' ∧ f.NoLineFeed ∧ Text.splitOn '\n' (f.layOut l 1) =
      ["(((&".toList, "(((((!(|(a=\r)))".toList, "(((((|".toList, "(((((((b<=)".toList,
        "(((()".toList, "(()".toList] := by
  intro l f
  have hwidth : l.width ≠ 0 := by decide
  have hfill : l.fill ≠ '\n' := by decide
  have hf : f.NoLineFeed := by
    refine .group trivial (List.forall_mem_cons.mpr ⟨.group trivial ?_, ?_⟩)
    · exact List.forall_mem_singleton.mpr
        (.group trivial (List.forall_mem_singleton.mpr (.comparison (by decide))))
    · exact List.forall_mem_singleton.mpr
        (.group trivial (List.forall_mem_singleton.mpr (.comparison (by decide))))
  exact ⟨hwidth, hfill, hf, (splitOn_layOut f 1).1 l hwidth hfill hf⟩

end Filter
end SearchFilter
