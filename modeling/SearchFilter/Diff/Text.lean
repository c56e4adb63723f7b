import SearchFilter.Diff.Compare
import SearchFilter.Diff.Lines
import SearchFilter.Report.Color

/-!
# Line differences of texts

The difference of two texts lists their lines: those of both after a space, those of the first alone
after a minus sign, in red, and those of the second alone after a plus sign, in green.
-/

namespace SearchFilter.Diff

/-- The lines of the difference that a stretch of the script gives. -/
def Edit.text (color : Bool) : Edit Text → Text
  | keep lines => lines.flatMap fun line => ' ' :: chomp line ++ ['\n']
  | delete lines => lines.flatMap fun line => Color.red.paint color ('-' :: chomp line) ++ ['\n']
  | insert lines => lines.flatMap fun line => Color.green.paint color ('+' :: chomp line) ++ ['\n']

/-- The difference of two texts, line by line. -/
def ofTexts (color : Bool) (before after : Text) : Text :=
  (Script.between (lines before) (lines after)).flatMap (Edit.text color)

end SearchFilter.Diff
