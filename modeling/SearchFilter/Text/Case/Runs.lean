/-!
# Runs of the case mappings

Most letters of a script map to their other case by one common distance, either every letter of
an interval or every second one.  A case mapping is kept as the ascending list of these runs.
-/

namespace SearchFilter.Text

/-- A run `(first, last, step, image)`: the code points `first`, `first + step`, … up to `last`
map to `image`, `image + step`, …. -/
abbrev CaseRun := Nat × Nat × Nat × Nat

/-- The image of a code point under the first run that covers it. -/
def CaseRun.image? (n : Nat) : List CaseRun → Option Nat
  | [] => none
  | (first, last, step, image) :: rest =>
    if n < first then none
    else if n ≤ last && (n - first) % step == 0 then some (image + (n - first))
    else CaseRun.image? n rest

end SearchFilter.Text
