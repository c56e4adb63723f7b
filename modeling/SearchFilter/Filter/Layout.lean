import SearchFilter.Filter.Basic

/-!
# Laying out filters

A filter is written on one line (`text`) or over several (`layOut`).  A `Layout` of width zero is
the one line; with any other width a conjunction or disjunction opens on a line of its own, each
of its filters follows one level deeper, and a parenthesis on the level of the group closes it.  A
negation stays on one line with everything below it.

The lines are written in front of a text that is already there (`layOutBefore`), so that no line is
copied once for every group around it; `layOut_comparison` and `layOut_group` say what the result is
without that text.
-/

namespace SearchFilter

/-- How a filter is laid out: `width` copies of `fill` for each level. -/
structure Layout where
  width : Nat
  fill : Char
  deriving DecidableEq

namespace Layout

/-- The width of a level where none is asked for. -/
def defaultWidth : Nat := 4

def compact : Layout := ⟨0, ' '⟩

/-- One filter on a line, four spaces for each level. -/
def pretty : Layout := ⟨defaultWidth, ' '⟩

def isCompact (l : Layout) : Bool :=
  l.width == 0

/-- The beginning of a line on a level. -/
def indentation (l : Layout) (level : Nat) : Text :=
  List.replicate (level * l.width) l.fill

end Layout

namespace Filter

mutual

/-- The filter on one line. -/
def text : Filter → Text
  | comparison c => c.text
  | group kind children => '(' :: kind.symbol :: textAll children ++ [')']

def textAll : List Filter → Text
  | [] => []
  | f :: fs => text f ++ textAll fs

end

theorem textAll_eq_flatMap (fs : List Filter) : textAll fs = fs.flatMap text := by
  induction fs with
  | nil => rfl
  | cons f fs ih => rw [textAll, ih, List.flatMap_cons]

mutual

/-- The filter laid out from the given level, and a text after it. -/
def layOutBefore (l : Layout) (level : Nat) : Filter → Text → Text
  | comparison c, rest => l.indentation level ++ (c.text ++ rest)
  | group kind children, rest =>
    l.indentation level ++
      if l.isCompact || kind == .not then text (.group kind children) ++ rest
      else '(' :: kind.symbol :: layOutAllBefore l (level + 1) children
        ('\n' :: (l.indentation level ++ ')' :: rest))

/-- Filters laid out on one level, each after a line break, and a text after the last. -/
def layOutAllBefore (l : Layout) (level : Nat) : List Filter → Text → Text
  | [], rest => rest
  | f :: fs, rest => '\n' :: layOutBefore l level f (layOutAllBefore l level fs rest)

end

/-- The filter laid out from the given level. -/
def layOut (l : Layout) (level : Nat) (f : Filter) : Text :=
  layOutBefore l level f []

/-- Filters laid out on one level, each after a line break. -/
def layOutAll (l : Layout) (level : Nat) (fs : List Filter) : Text :=
  layOutAllBefore l level fs []

mutual

theorem layOutBefore_eq (l : Layout) (level : Nat) (f : Filter) (rest : Text) :
    layOutBefore l level f rest = layOut l level f ++ rest := by
  cases f with
  | comparison c => simp [layOut, layOutBefore]
  | group kind children =>
    by_cases h : l.isCompact || kind == .not
    · simp [layOut, layOutBefore, h]
    · rw [layOut, layOutBefore, layOutBefore, if_neg h, if_neg h,
        layOutAllBefore_eq l (level + 1) children ('\n' :: (l.indentation level ++ ')' :: rest)),
        layOutAllBefore_eq l (level + 1) children ('\n' :: (l.indentation level ++ ')' :: []))]
      simp

theorem layOutAllBefore_eq (l : Layout) (level : Nat) (fs : List Filter) (rest : Text) :
    layOutAllBefore l level fs rest = layOutAll l level fs ++ rest := by
  cases fs with
  | nil => rfl
  | cons f fs =>
    rw [layOutAll, layOutAllBefore, layOutAllBefore, layOutBefore_eq l level f,
      layOutBefore_eq l level f (layOutAllBefore l level fs []),
      layOutAllBefore_eq l level fs rest, layOutAll]
    simp

end

theorem layOut_comparison (l : Layout) (level : Nat) (c : Comparison) :
    layOut l level (.comparison c) = l.indentation level ++ c.text := by
  simp [layOut, layOutBefore]

theorem layOut_group (l : Layout) (level : Nat) (kind : Connective) (children : List Filter) :
    layOut l level (.group kind children) = l.indentation level ++
      if l.isCompact || kind == .not then text (.group kind children)
      else '(' :: kind.symbol :: layOutAll l (level + 1) children
        ++ '\n' :: l.indentation level ++ [')'] := by
  by_cases h : l.isCompact || kind == .not
  · simp [layOut, layOutBefore, h]
  · rw [layOut, layOutBefore, if_neg h, if_neg h, layOutAllBefore_eq]
    simp

@[simp] theorem layOutAll_nil (l : Layout) (level : Nat) : layOutAll l level [] = [] := rfl

theorem layOutAll_cons (l : Layout) (level : Nat) (f : Filter) (fs : List Filter) :
    layOutAll l level (f :: fs) = '\n' :: layOut l level f ++ layOutAll l level fs := by
  rw [layOutAll, layOutAllBefore, layOutBefore_eq, layOutAll]
  rfl

end Filter
end SearchFilter
