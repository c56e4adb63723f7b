import SearchFilter.Text.Hex
import SearchFilter.Text.Quoted.Tables

/-!
# Quoted texts in messages

A message shows a text or a character between quotes, with escapes for the quote, the backslash and
everything that would not print as itself.
-/

namespace SearchFilter.Text

/-- Whether a character prints as itself, apart from the text around it. -/
def isPrintable (c : Char) : Bool :=
  !unprintableRanges.mem c.toNat && !extendingMarkRanges.mem c.toNat

/-- The form of a character between quotes. -/
def quotedChar (quote c : Char) : Text :=
  if c = '\x00' then ['\\', '0']
  else if c = '\t' then ['\\', 't']
  else if c = '\r' then ['\\', 'r']
  else if c = '\n' then ['\\', 'n']
  else if c = '\\' then ['\\', '\\']
  else if c = quote then ['\\', quote]
  else if isPrintable c then [c]
  else '\\' :: 'u' :: '\x7b' :: hexDigits c.toNat ++ ['\x7d']

def quoted (s : Text) : Text :=
  '"' :: s.flatMap (quotedChar '"') ++ ['"']

/-- The character between single quotes. -/
def quotedSingle (c : Char) : Text :=
  '\'' :: quotedChar '\'' c ++ ['\'']

end SearchFilter.Text
