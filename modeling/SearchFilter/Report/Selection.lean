import SearchFilter.Filter.Holds
import SearchFilter.Filter.Layout
import SearchFilter.Record.Load
import SearchFilter.Report.Color
import SearchFilter.Report.Table

/-!
# Selections

A `Selection` says which records of a list a filter selects, by their indices in ascending order.
It is written as a table of all records with a summary, or as JSON.
-/

namespace SearchFilter

/-- The outcome of a filter on a list of records. -/
structure Selection where
  /-- The filter on one line. -/
  filter : Text
  /-- The number of records. -/
  total : Nat
  /-- The indices of the selected records. -/
  indices : List Nat

namespace Selection

variable {ρ : Type} [Record ρ]

/-- The indices of the records that the filter selects, the first record having index `index`. -/
def indicesFrom (f : Filter) (policy : OrderPolicy) (index : Nat) : List ρ → List Nat
  | [] => []
  | r :: rs =>
    if f.holds r policy then index :: indicesFrom f policy (index + 1) rs
    else indicesFrom f policy (index + 1) rs

/-- The selection that a filter makes from a list of records. -/
def of (f : Filter) (records : List ρ) (policy : OrderPolicy) : Selection where
  filter := f.text
  total := records.length
  indices := indicesFrom f policy 0 records

/-- Binary search for `i` in an ascending array, between the positions `low` and `high`. -/
def search (xs : Array Nat) (i low high : Nat) : Bool :=
  if low < high then
    let middle := low + (high - low) / 2
    match xs[middle]? with
    | none => false
    | some x =>
      if x = i then true
      else if x < i then search xs i (middle + 1) high
      else search xs i low middle
  else false
termination_by high - low

/-- Whether the record with index `i` is selected. -/
def contains (sel : Selection) (i : Nat) : Bool :=
  let xs := sel.indices.toArray
  search xs i 0 xs.size

/-! ### Printing -/

def row (sel : Selection) (color : Bool) (index : Nat) (e : Entry) : List Text :=
  let mark :=
    if sel.contains index then Color.green.paint color "yes".toList
    else Color.red.paint color "no".toList
  [Text.ofNat index, mark, e.text]

def rows (sel : Selection) (color : Bool) (index : Nat) : List Entry → List (List Text)
  | [] => []
  | e :: es => sel.row color index e :: rows sel color (index + 1) es

/-- The selection as a table of the records, after the filter and before a summary. -/
def text (sel : Selection) (color : Bool) (records : List Entry) : Text :=
  "Filter: ".toList ++ Color.cyan.paint color sel.filter ++ '\n' ::
    Table.render ["#".toList, "Matched".toList, "Record".toList] (sel.rows color 0 records)
    ++ '\n' :: Text.ofNat sel.indices.length ++ " of ".toList ++ Text.ofNat sel.total
    ++ " records matched\n".toList

def toJson (sel : Selection) : Json :=
  .object [
    ("filter".toList, .string sel.filter),
    ("matched".toList, .array (sel.indices.map fun (i : Nat) => .integer i)),
    ("matched_count".toList, .integer sel.indices.length),
    ("total".toList, .integer sel.total)]

def json (sel : Selection) : Text :=
  sel.toJson.pretty 0

end Selection
end SearchFilter
