import SearchFilter.Text.Basic
import SearchFilter.Text.Case.Tables

/-!
# Letter case

Two ways to disregard case.  `lowercase` is the full lowercase form of a text, in which a sigma
at the end of a word takes its final form and one capital becomes two characters.  `fold` is simple
case folding, which replaces one character by one and looks at nothing around it; two characters
are the same letter when their foldings agree (`sameLetter`).
-/

namespace SearchFilter.Text

/-- The lowercase form of a character beyond ASCII that has a one-character form of its own. -/
def lowercaseImage? (c : Char) : Option Char :=
  (CaseRun.image? c.toNat lowercaseRuns).map Char.ofNat

/-- The lowercase form of a character, whatever stands around it. -/
def lowercaseChar (c : Char) : Text :=
  if c.toNat < 0x80 then [c.toLower]
  else if c = '\u0130' then ['i', '\u0307']
  else [(lowercaseImage? c).getD c]

/-- The Unicode property Cased. -/
def isCased (c : Char) : Bool :=
  casedRanges.mem c.toNat

/-- The Unicode property Case_Ignorable. -/
def isCaseIgnorable (c : Char) : Bool :=
  caseIgnorableRanges.mem c.toNat

/-- Whether the first character that case does not ignore is a cased one. -/
def meetsCased (s : Text) : Bool :=
  match s.dropWhile isCaseIgnorable with
  | [] => false
  | c :: _ => isCased c

/-- A sigma is final when a cased character stands before it and none after it; `before` is what
precedes it, nearest first. -/
def isFinalSigma (before after : Text) : Bool :=
  meetsCased before && !meetsCased after

/-- The lowercase form of a text that follows `before`, which is given nearest character first. -/
def lowercaseAfter (before : Text) : Text → Text
  | [] => []
  | c :: s =>
    (if c = 'Σ' then [if isFinalSigma before s then 'ς' else 'σ'] else lowercaseChar c)
      ++ lowercaseAfter (c :: before) s

def lowercase (s : Text) : Text :=
  lowercaseAfter [] s

/-- Simple case folding of a character. -/
def fold (c : Char) : Char :=
  if c.toNat < 0x80 then c.toLower
  else match CaseRun.image? c.toNat foldingRuns with
    | some n => Char.ofNat n
    | none => (lowercaseImage? c).getD c

/-- Whether two characters are one letter when case is disregarded. -/
def sameLetter (a b : Char) : Bool :=
  fold a == fold b

end SearchFilter.Text
