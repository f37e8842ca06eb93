import FormCompiler.Binary64.Rounding
import FormCompiler.Text.Basic

/-! Texts that write a number: an optional sign, digits with or without a point, and an optional
exponent; or the word for infinity. -/

namespace FormCompiler.Text

/-- Whether a minus sign stands in front, and what follows the sign. -/
def splitSign : List Char → Bool × List Char
  | '-' :: cs => (true, cs)
  | '+' :: cs => (false, cs)
  | cs => (false, cs)

/-- The exponent that a whole text writes; an empty text writes zero. -/
def exponent? : List Char → Option Int
  | [] => some 0
  | c :: cs =>
    let (negative, digits) := splitSign cs
    if (c = 'e' ∨ c = 'E') ∧ digits ≠ [] ∧ digits.all Char.isDigit then
      some (if negative then -(numeral digits : Int) else numeral digits)
    else none

/-- A point and the digits after it, if there is one. -/
def splitPlaces : List Char → List Char × List Char
  | '.' :: cs => spanDigits cs
  | cs => ([], cs)

/-- The digits and the exponent of an unsigned decimal. -/
def decimal? (cs : List Char) : Option (Nat × Int) :=
  let (whole, rest) := spanDigits cs
  let (places, rest) := splitPlaces rest
  if whole = [] ∧ places = [] then none
  else (exponent? rest).map fun e => (numeral (whole ++ places), e - places.length)

def number? (cs : List Char) : Option Binary64 :=
  let (negative, body) := splitSign cs
  if spells "inf" body || spells "infinity" body then some (.ofCode negative Binary64.infinityCode)
  else (decimal? body).map fun (digits, exponent) => .ofDecimal negative digits exponent

end FormCompiler.Text
