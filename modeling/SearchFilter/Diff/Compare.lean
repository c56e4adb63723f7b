import SearchFilter.Diff.Middle
import SearchFilter.Diff.Script

/-!
# Comparing two lists

`Script.between` makes an edit script in three steps.  `divide` keeps what the lists share at both ends and
divides the rest at the middle of a shortest script.  `settleDeletions` gathers neighbouring
deletions, and `settleInsertions` moves every insertion up as far as the kept items around it allow,
then down as far as they allow, and joins it with the insertions that it meets.  Last, `ordered` puts
the deletions between two kept stretches before the insertions there.
-/

namespace SearchFilter.Diff

variable {α : Type} [DecidableEq α]

/-! ### Dividing -/

def sharedStart : List α → List α → List α
  | x :: xs, y :: ys => if x = y then x :: sharedStart xs ys else []
  | _, _ => []

def sharedEnd (xs ys : List α) : List α :=
  (sharedStart xs.reverse ys.reverse).reverse

/-- A script between two lists that are divided at most `rounds` times, one inside the other. -/
def divide : (rounds : Nat) → List α → List α → Script α
  | rounds, xs, ys =>
    let start := sharedStart xs ys
    let xs := xs.drop start.length
    let ys := ys.drop start.length
    let finish := sharedEnd xs ys
    let xs := xs.take (xs.length - finish.length)
    let ys := ys.take (ys.length - finish.length)
    let inner : Script α :=
      if xs.isEmpty && ys.isEmpty then []
      else if ys.isEmpty then [.delete xs]
      else if xs.isEmpty then [.insert ys]
      else match rounds, middle xs ys with
        | rounds + 1, some (i, j) =>
          divide rounds (xs.take i) (ys.take j) ++ divide rounds (xs.drop i) (ys.drop j)
        | _, _ => [.delete xs, .insert ys]
    keeping start ++ inner ++ keeping finish

/-! ### Moving a stretch -/

/-- Where a stretch is being moved: the script above it, nearest first, the stretch, and the script
below it. -/
structure Place (α : Type) where
  above : Script α
  block : List α
  below : Script α

/-- Moves deletions up over insertions and joins them with the deletions met there. -/
def raiseDeletion (block : List α) : (above below : Script α) → Place α
  | .insert xs :: above, below => raiseDeletion block above (.insert xs :: below)
  | .delete xs :: above, below => raiseDeletion (xs ++ block) above below
  | above, below => ⟨above, block, below⟩

/-- Moves deletions down over insertions and joins them with the deletions met there. -/
def lowerDeletion (block : List α) : (below above : Script α) → Place α
  | .insert xs :: below, above => lowerDeletion block below (.insert xs :: above)
  | .delete xs :: below, above => lowerDeletion (block ++ xs) below above
  | below, above => ⟨above, block, below⟩

/-- Kept items in front of a script. -/
def keepAbove (xs : List α) : Script α → Script α
  | .keep ys :: below => .keep (xs ++ ys) :: below
  | below => keeping xs ++ below

/-- Kept items behind a script that is given from its end. -/
def keepBelow (xs : List α) : Script α → Script α
  | .keep ys :: above => .keep (ys ++ xs) :: above
  | above => keeping xs ++ above

/-- Turns an inserted block up through kept items, given from their end: while the block ends with
the item above it, that item can as well be the inserted one.  The result is what is left of the
kept items, the block, and the items it has passed. -/
def turnUp : (kept block passed : List α) → List α × List α × List α
  | [], block, passed => ([], block, passed)
  | x :: kept, block, passed =>
    if block.getLast? = some x then turnUp kept (x :: block.dropLast) (x :: passed)
    else (x :: kept, block, passed)

/-- Turns an inserted block down through kept items: while the block begins with the item below it,
that item can as well be the inserted one.  The result is what is left of the kept items, the block,
and the items it has passed, last one first. -/
def turnDown : (kept block passed : List α) → List α × List α × List α
  | [], block, passed => ([], block, passed)
  | x :: kept, block, passed =>
    if block.head? = some x then turnDown kept (block.tail ++ [x]) (x :: passed)
    else (x :: kept, block, passed)

/-- Moves an insertion up as far as it goes. -/
def raiseInsertion (block : List α) : (above below : Script α) → Place α
  | .keep xs :: above, below =>
    match turnUp xs.reverse block [] with
    | ([], block, passed) => raiseInsertion block above (keepAbove passed below)
    | (kept, block, passed) => ⟨.keep kept.reverse :: above, block, keepAbove passed below⟩
  | .delete xs :: above, below => raiseInsertion block above (.delete xs :: below)
  | .insert xs :: above, below => raiseInsertion (xs ++ block) above below
  | [], below => ⟨[], block, below⟩

/-- Moves an insertion down as far as it goes. -/
def lowerInsertion (block : List α) : (below above : Script α) → Place α
  | .keep xs :: below, above =>
    match turnDown xs block [] with
    | ([], block, passed) => lowerInsertion block below (keepBelow passed.reverse above)
    | (kept, block, passed) => ⟨keepBelow passed.reverse above, block, .keep kept :: below⟩
  | .delete xs :: below, above => lowerInsertion block below (.delete xs :: above)
  | .insert xs :: below, above => lowerInsertion (block ++ xs) below above
  | [], above => ⟨above, block, []⟩

/-! ### Settling -/

def Edit.isDelete : Edit α → Bool
  | delete _ => true
  | _ => false

def Edit.isInsert : Edit α → Bool
  | insert _ => true
  | _ => false

/-- Moves the deletions below, the first of them first; each round uses one up. -/
def settleDeletions : (rounds : Nat) → (above below : Script α) → Script α
  | 0, above, below => above.reverse ++ below
  | rounds + 1, above, below =>
    let skipped := below.takeWhile (!·.isDelete)
    match below.dropWhile (!·.isDelete) with
    | .delete xs :: below =>
      let raised := raiseDeletion xs (skipped.reverse ++ above) below
      let lowered := lowerDeletion raised.block raised.below raised.above
      settleDeletions rounds (.delete lowered.block :: lowered.above) lowered.below
    | rest => above.reverse ++ skipped ++ rest

/-- Moves the insertions below, the first of them first; each round uses one up. -/
def settleInsertions : (rounds : Nat) → (above below : Script α) → Script α
  | 0, above, below => above.reverse ++ below
  | rounds + 1, above, below =>
    let skipped := below.takeWhile (!·.isInsert)
    match below.dropWhile (!·.isInsert) with
    | .insert xs :: below =>
      let raised := raiseInsertion xs (skipped.reverse ++ above) below
      let lowered := lowerInsertion raised.block raised.below raised.above
      settleInsertions rounds (.insert lowered.block :: lowered.above) lowered.below
    | rest => above.reverse ++ skipped ++ rest

/-! ### Ordering -/

/-- The script with the deletions between two kept stretches before the insertions there; `gone` and
`come` are the ones met since the last kept stretch. -/
def orderedAfter (gone come : List α) : Script α → Script α
  | [] => [.delete gone, .insert come]
  | .keep xs :: script => .delete gone :: .insert come :: .keep xs :: orderedAfter [] [] script
  | .delete xs :: script => orderedAfter (gone ++ xs) come script
  | .insert xs :: script => orderedAfter gone (come ++ xs) script

/-- The script with the deletions between two kept stretches before the insertions there. -/
def ordered (script : Script α) : Script α :=
  orderedAfter [] [] script

/-- An edit script from one list to another. -/
def Script.between (xs ys : List α) : Script α :=
  let script := divide (xs.length + ys.length) xs ys
  let script := settleDeletions (script.countP Edit.isDelete) [] script
  ordered (settleInsertions (script.countP Edit.isInsert) [] script)

end SearchFilter.Diff
