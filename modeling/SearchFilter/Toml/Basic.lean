import SearchFilter.Text.Basic

/-!
# TOML values and tables

A `Toml` is a value of a TOML document.  Tables remember how they came about (`Origin`), because that
decides how they may be extended: a table is headed once, a table made by dotted keys takes more
dotted keys but no header, and a table in braces takes nothing more.

`extend` walks from a table down a path of names, making the tables that are missing, and changes
the table it reaches.  In an array of tables it walks on in the last one.
-/

namespace SearchFilter

/-- How a table came about. -/
inductive Toml.Origin where
  /-- A header names it. -/
  | header
  /-- A longer header implies it. -/
  | implied
  /-- A dotted key makes it. -/
  | dotted
  /-- A dotted key inside braces makes it. -/
  | inner
  deriving DecidableEq

inductive Toml where
  | string (s : Text)
  | integer (n : Int)
  | float (written : Text)
  | boolean (b : Bool)
  | date (written : Text)
  | array (items : List Toml)
  | braces (members : List (Text × Toml))
  | table (origin : Toml.Origin) (members : List (Text × Toml))
  | tables (earlier : List (List (Text × Toml))) (last : List (Text × Toml))

namespace Toml

/-- The members of a table, in the order in which they were written. -/
abbrev Members := List (Text × Toml)

/-- The members with the value of a name that is among them replaced. -/
def replace (name : Text) (value : Toml) : Members → Members
  | [] => []
  | m :: ms => if m.1 = name then (name, value) :: ms else m :: replace name value ms

/-- Changes the table at the end of a path; tables that are missing on the way get the origin `made`.
Dotted keys do not pass through a table that a header names. -/
def extend (made : Origin) (change : Origin → Members → Option Members) :
    (path : List Text) → Origin → Members → Option Members
  | [], origin, ms => change origin ms
  | name :: path, _, ms =>
    match ms.lookup name with
    | none => (extend made change path made []).map fun sub => ms ++ [(name, .table made sub)]
    | some (.table origin sub) =>
      if made ≠ .implied ∧ origin = .header then none
      else (extend made change path origin sub).map fun sub => replace name (.table origin sub) ms
    | some (.tables earlier last) =>
      (extend made change path .header last).map fun sub => replace name (.tables earlier sub) ms
    | some _ => none

/-- Adds a member to a table.  The table that a dotted key ends in must itself come from dotted
keys. -/
def addMember (dotted : Bool) (name : Text) (value : Toml) (origin : Origin) (ms : Members) :
    Option Members :=
  let fromDots := origin == .dotted || origin == .inner
  if fromDots != dotted || (ms.lookup name).isSome then none else some (ms ++ [(name, value)])

/-- Adds the value of a key, which is a path of names, to a table. -/
def addKey (made : Origin) (path : List Text) (value : Toml) (origin : Origin) (ms : Members) :
    Option Members :=
  match path.getLast? with
  | none => none
  | some name =>
    let way := path.dropLast
    extend made (addMember (!way.isEmpty) name value) way origin ms

/-- Heads a table of the given name. -/
def addTable (name : Text) (_ : Origin) (ms : Members) : Option Members :=
  match ms.lookup name with
  | none => some (ms ++ [(name, .table .header [])])
  | some (.table .implied sub) => some (replace name (.table .header sub) ms)
  | some _ => none

/-- Appends a table to the array of tables of the given name. -/
def addElement (name : Text) (_ : Origin) (ms : Members) : Option Members :=
  match ms.lookup name with
  | none => some (ms ++ [(name, .tables [] [])])
  | some (.tables earlier last) => some (replace name (.tables (earlier ++ [last]) []) ms)
  | some _ => none

/-- Opens the table that a header names, in an array of tables if it is a double header. -/
def openTable (double : Bool) (path : List Text) (root : Members) : Option Members :=
  match path.getLast? with
  | none => none
  | some name =>
    extend .implied (if double then addElement name else addTable name) path.dropLast .header root

/-- Adds the value of a key to the table that the header `path` has opened. -/
def addUnder (path key : List Text) (value : Toml) (root : Members) : Option Members :=
  extend .implied (addKey .dotted key value) path .header root

end Toml
end SearchFilter
