import SearchFilter.Number.Shortest
import SearchFilter.Text.Basic

/-!
# The text of a floating-point number

A number is written with its shortest digits, either positionally or with an exponent of ten.
`FloatFormat` holds the decisions of one style: how ties between shortest decimals go, which
exponents of the leading digit are written positionally, and whether a whole number shows a
point.  The styles the library uses stand with the modules that write them.
-/

namespace SearchFilter

/-- The decisions of one style of writing numbers. -/
structure FloatFormat where
  /-- Which of two equally near shortest decimals is written. -/
  tie : Binary64.TieRule
  /-- Which exponents of the leading digit are written without an exponent. -/
  positional : Int → Bool
  /-- Whether a whole number ends in `.0`. -/
  showsPoint : Bool

namespace FloatFormat

/-- The digits with the decimal point that `exponent` asks for. -/
def positionalText (showsPoint : Bool) (digits : Text) (exponent : Int) : Text :=
  let point : Int := digits.length + exponent
  if 0 ≤ exponent then
    digits ++ List.replicate exponent.toNat '0' ++ if showsPoint then ['.', '0'] else []
  else if 0 < point then
    digits.take point.toNat ++ '.' :: digits.drop point.toNat
  else
    '0' :: '.' :: List.replicate (-point).toNat '0' ++ digits

/-- The digits with a point after the first one and the exponent of the leading digit. -/
def exponentText (digits : Text) (leading : Int) : Text :=
  let fraction := digits.drop 1
  digits.take 1 ++ (if fraction.isEmpty then [] else '.' :: fraction)
    ++ 'e' :: (if 0 ≤ leading then '+' else '-') :: Text.ofNat leading.natAbs

/-- The text of a number without its sign, `m * 2 ^ e`. -/
def magnitudeText (f : FloatFormat) (m : Nat) (e : Int) : Text :=
  if m = 0 then positionalText f.showsPoint ['0'] 0
  else
    let d := Binary64.shortest f.tie m e
    let digits := Text.ofNat d.digits
    let leading : Int := d.exponent + digits.length - 1
    if f.positional leading then positionalText f.showsPoint digits d.exponent
    else exponentText digits leading

def text (f : FloatFormat) : Binary64 → Text
  | .nan => "NaN".toList
  | .infinite negative => (if negative then "-inf" else "inf").toList
  | .finite negative m e => (if negative then ['-'] else []) ++ f.magnitudeText m e

end FloatFormat
end SearchFilter
