import SearchFilter.Text.Basic

/-!
# Colored text

A terminal shows text in a color between two escape sequences: one that selects the color and one
that resets it.  Where the text itself holds a reset, the color is selected again after it.
-/

namespace SearchFilter

inductive Color where
  | red
  | green
  | yellow
  | cyan
  deriving DecidableEq

namespace Color

/-- The sequence that ends every color. -/
def reset : Text := ['\x1b', '[', '0', 'm']

/-- The sequence that selects a color. -/
def select : Color → Text
  | red => ['\x1b', '[', '3', '1', 'm']
  | green => ['\x1b', '[', '3', '2', 'm']
  | yellow => ['\x1b', '[', '3', '3', 'm']
  | cyan => ['\x1b', '[', '3', '6', 'm']

/-- The text with the color selected again after every reset in it. -/
def reselect (color : Color) : Text → Text
  | '\x1b' :: '[' :: '0' :: 'm' :: s => reset ++ color.select ++ reselect color s
  | c :: s => c :: reselect color s
  | [] => []

/-- The text in the color, if colors are on. -/
def paint (color : Color) (on : Bool) (s : Text) : Text :=
  if on then color.select ++ color.reselect s ++ reset else s

end Color
end SearchFilter
