import SearchFilter.Text.Utf8

/-!
# Files

A run sees the files around it as a function from paths to their bytes (`Files`).  `Files.read` is
the text of a file, or why there is none.

`Files.ofDirectory` is a directory that holds files and no directories.  A path leads to one of its
files through components between slashes; a file leads nowhere further, not even through the empty
component behind a final slash.
-/

namespace SearchFilter

/-- Why a file cannot be read. -/
inductive ReadFault where
  | missing
  | forbidden
  | directory
  /-- The path goes on behind a file. -/
  | notDirectory
  | nameTooLong
  /-- The path holds a character that no path can hold. -/
  | nulInPath
  | notUtf8
  deriving DecidableEq

def ReadFault.message : ReadFault → Text
  | missing => "No such file or directory (os error 2)".toList
  | forbidden => "Permission denied (os error 13)".toList
  | directory => "Is a directory (os error 21)".toList
  | notDirectory => "Not a directory (os error 20)".toList
  | nameTooLong => "File name too long (os error 36)".toList
  | nulInPath => "file name contained an unexpected NUL byte".toList
  | notUtf8 => "stream did not contain valid UTF-8".toList

/-- The files that a run may read. -/
abbrev Files := Text → Except ReadFault (List UInt8)

namespace Files

def read (files : Files) (path : Text) : Except ReadFault Text :=
  if '\x00' ∈ path then .error .nulInPath
  else match files path with
    | .error fault => .error fault
    | .ok bytes =>
      match Text.ofUtf8? bytes with
      | none => .error .notUtf8
      | some s => .ok s

/-- Where the components of a path lead. -/
inductive Place where
  /-- To the directory itself. -/
  | here
  /-- To a directory further up, of which nothing else is known. -/
  | above
  | file (content : List UInt8)

/-- Follows one more component of a path; `content?` tells the files of the directory. -/
def Place.enter (content? : Text → Option (List UInt8)) (component : Text) :
    Place → Except ReadFault Place
  | file _ => .error .notDirectory
  | place =>
    if component = [] ∨ component = ['.'] then .ok place
    else if component = ['.', '.'] then .ok above
    else if 255 < component.utf8Length then .error .nameTooLong
    else match place, content? component with
      | here, some content => .ok (file content)
      | _, _ => .error .missing

/-- The files of a directory that holds no other directory. -/
def ofDirectory (content? : Text → Option (List UInt8)) : Files := fun path =>
  let start := if path.head? = some '/' then Place.above else Place.here
  if path.isEmpty then .error .missing
  else if 4096 ≤ path.utf8Length then .error .nameTooLong
  else match (Text.splitOn '/' path).foldlM (fun place c => place.enter content? c) start with
    | .ok (.file content) => .ok content
    | .ok _ => .error .directory
    | .error fault => .error fault

end Files
end SearchFilter
