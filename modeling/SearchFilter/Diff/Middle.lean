/-!
# The middle of a shortest edit script

Two lists span a grid in which a step right deletes an item of the first list, a step down inserts
one of the second, and a diagonal step keeps an item that both share.  A shortest edit script is a
path with the fewest straight steps.  `middle` finds a point on such a path by following the paths
that get furthest with 0, 1, 2, … straight steps, from the beginning and from the end at once, until
two of them meet.

How far the paths have come is kept for each diagonal (`Frontier`): on diagonal `k` the path stands
at `x` in the first list and `x - k` in the second.  Diagonals are tried from the greatest down.
-/

namespace SearchFilter.Diff

variable {α : Type}

/-- How far the paths have come on the diagonals `-offset`, …, `offset`. -/
structure Frontier where
  offset : Nat
  reach : Array Nat

namespace Frontier

def start (offset : Nat) : Frontier :=
  ⟨offset, Array.replicate (2 * offset + 1) 0⟩

def get (f : Frontier) (k : Int) : Nat :=
  (f.reach[(k + f.offset).toNat]?).getD 0

/-- The frontier with the path on one diagonal moved. -/
def set (f : Frontier) (k : Int) (x : Nat) : Frontier :=
  { f with reach := f.reach.setIfInBounds (k + f.offset).toNat x }

/-- Where the path on diagonal `k` begins its `d`-th stretch: one step on from the neighbouring
diagonal that has come further. -/
def entry (f : Frontier) (d : Nat) (k : Int) : Nat :=
  if k = -d ∨ (k ≠ d ∧ f.get (k - 1) < f.get (k + 1)) then f.get (k + 1) else f.get (k - 1) + 1

end Frontier

def common [DecidableEq α] (xs ys : Array α) : (bound i j : Nat) → Nat
  | 0, _, _ => 0
  | bound + 1, i, j =>
    match xs[i]?, ys[j]? with
    | some x, some y => if x = y then common xs ys bound (i + 1) (j + 1) + 1 else 0
    | _, _ => 0

/-- A step of one frontier along the diagonals `ks`.  `meets k x` says whether the path that has come
to `x` on diagonal `k` meets one from the other side; then the point where its stretch began is the
answer. -/
def advance [DecidableEq α] (xs ys : Array α) (meets : Int → Nat → Bool) (d : Nat) :
    List Int → Frontier → Frontier × Option (Nat × Nat × Nat × Nat)
  | [], f => (f, none)
  | k :: ks, f =>
    let x := f.entry d k
    let y := ((x : Int) - k).toNat
    let n := common xs ys xs.size x y
    let f := f.set k (x + n)
    if meets k (x + n) then (f, some (x, y, x + n, y + n)) else advance xs ys meets d ks f

/-- The diagonals that paths with `d` straight steps can be on. -/
def diagonals (d : Nat) : List Int :=
  (List.range (d + 1)).map fun (i : Nat) => (d : Int) - 2 * i

/-- The search from both sides with `d` straight steps and more, for `rounds` rounds.  The second
search runs over the reversed lists. -/
def middleFrom [DecidableEq α] (xs ys sx sy : Array α) :
    (rounds d : Nat) → (forward backward : Frontier) → Option (Nat × Nat)
  | 0, _, _, _ => none
  | rounds + 1, d, forward, backward =>
    let delta : Int := (xs.size : Int) - ys.size
    let odd := delta % 2 != 0
    let meetsBackward (k : Int) (x : Nat) : Bool :=
      odd && (k - delta).natAbs + 1 ≤ d && xs.size ≤ x + backward.get (delta - k)
    match advance xs ys meetsBackward d (diagonals d) forward with
    | (_, some (x, y, _, _)) => some (x, y)
    | (forward, none) =>
      let meetsForward (k : Int) (x : Nat) : Bool :=
        !odd && (k - delta).natAbs ≤ d && xs.size ≤ x + forward.get (delta - k)
      match advance sx sy meetsForward d (diagonals d) backward with
      | (_, some (_, _, x, y)) => some (xs.size - x, ys.size - y)
      | (backward, none) => middleFrom xs ys sx sy rounds (d + 1) forward backward

/-- A point in the middle of a shortest edit script, as offsets into the two lists. -/
def middle [DecidableEq α] (xs ys : List α) : Option (Nat × Nat) :=
  let bound := (xs.length + ys.length + 1) / 2 + 1
  middleFrom xs.toArray ys.toArray xs.reverse.toArray ys.reverse.toArray bound 0
    (Frontier.start (bound + 1)) (Frontier.start (bound + 1))

end SearchFilter.Diff
