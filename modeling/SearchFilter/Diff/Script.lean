/-!
# Edit scripts

A script turns one list into another by stretches that it keeps, deletes or inserts.  `before` and
`after` are the two lists that it stands between.
-/

namespace SearchFilter.Diff

variable {α : Type}

/-- A stretch of a script. -/
inductive Edit (α : Type) where
  | keep (xs : List α)
  | delete (xs : List α)
  | insert (xs : List α)

abbrev Script (α : Type) := List (Edit α)

/-- What a stretch takes from the first list. -/
@[simp] def Edit.before : Edit α → List α
  | keep xs => xs
  | delete xs => xs
  | insert _ => []

/-- What a stretch gives to the second list. -/
@[simp] def Edit.after : Edit α → List α
  | keep xs => xs
  | delete _ => []
  | insert xs => xs

def Script.before (script : Script α) : List α :=
  script.flatMap Edit.before

def Script.after (script : Script α) : List α :=
  script.flatMap Edit.after

@[simp] theorem before_nil : Script.before ([] : Script α) = [] := rfl

@[simp] theorem after_nil : Script.after ([] : Script α) = [] := rfl

@[simp] theorem before_cons (e : Edit α) (s : Script α) :
    Script.before (e :: s) = e.before ++ Script.before s := rfl

@[simp] theorem after_cons (e : Edit α) (s : Script α) :
    Script.after (e :: s) = e.after ++ Script.after s := rfl

@[simp] theorem before_append (s t : Script α) :
    Script.before (s ++ t) = s.before ++ t.before := by
  simp [Script.before]

@[simp] theorem after_append (s t : Script α) : Script.after (s ++ t) = s.after ++ t.after := by
  simp [Script.after]

/-- A stretch that is kept, left out if it is empty. -/
def keeping (xs : List α) : Script α :=
  if xs.isEmpty then [] else [.keep xs]

@[simp] theorem before_keeping (xs : List α) : Script.before (keeping xs) = xs := by
  cases xs <;> simp [keeping, Script.before, Edit.before]

@[simp] theorem after_keeping (xs : List α) : Script.after (keeping xs) = xs := by
  cases xs <;> simp [keeping, Script.after, Edit.after]

end SearchFilter.Diff
