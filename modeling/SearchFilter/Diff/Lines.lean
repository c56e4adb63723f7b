import SearchFilter.Text.Basic

/-!
# Lines

A text is cut into lines after every line feed, carriage return, or pair of the two; each line
keeps what ends it, so that the lines together are the text.
-/

namespace SearchFilter.Diff

/-- The lines of a text, each with its ending. -/
def lines : Text → List Text
  | [] => []
  | '\r' :: '\n' :: s => ['\r', '\n'] :: lines s
  | c :: s =>
    if c = '\n' ∨ c = '\r' then [c] :: lines s
    else match lines s with
      | [] => [[c]]
      | line :: rest => (c :: line) :: rest

/-- A line without the line feeds at its end. -/
def chomp (line : Text) : Text :=
  (line.reverse.dropWhile (· == '\n')).reverse

end SearchFilter.Diff
