import FormCompiler.Binary64.Shortest

/-! The text of a number: shortest digits, written out in full or with an exponent. What differs
from one kind of text to another is a value of `NumberStyle`. -/

namespace FormCompiler

structure NumberStyle where
  tie : TieRule
  /-- Whether a number whose first digit has this exponent is written in full. -/
  writtenOut : Int → Bool
  /-- Whether a whole number that is written out still shows a fraction. -/
  pointZero : Bool
  signedZero : Bool
  notANumber : String
  infinity : String

namespace Decimal

def digitText (d : Decimal) : List Char := Nat.toDigits 10 d.digits

def leadingExponent (d : Decimal) : Int := d.exponent + d.digitText.length - 1

/-- Written with all its places and no exponent. -/
def plain (pointZero : Bool) (d : Decimal) : List Char :=
  let digits := d.digitText
  let before := d.leadingExponent + 1
  if before ≤ 0 then ['0', '.'] ++ List.replicate (-before).toNat '0' ++ digits
  else if 0 ≤ d.exponent then
    digits ++ List.replicate d.exponent.toNat '0' ++ (if pointZero then ['.', '0'] else [])
  else digits.take before.toNat ++ ['.'] ++ digits.drop before.toNat

def scientific (d : Decimal) : List Char :=
  let e := d.leadingExponent
  let mark := if 0 ≤ e then ['e', '+'] else ['e', '-']
  let mantissa := match d.digitText with
    | first :: second :: rest => first :: '.' :: second :: rest
    | digits => digits
  mantissa ++ mark ++ Nat.toDigits 10 e.natAbs

end Decimal

namespace Binary64

def text (style : NumberStyle) (x : Binary64) : String :=
  if x.isNaN then style.notANumber
  else
    let sign := if x.isNegative && (style.signedZero || !x.isZero) then ['-'] else []
    if !x.isFinite then String.ofList sign ++ style.infinity
    else
      let d := x.shortest style.tie
      let body :=
        if style.writtenOut d.leadingExponent then d.plain style.pointZero else d.scientific
      String.ofList (sign ++ body)

end Binary64

/-! ## The two texts of a bound outside JSON -/

/-- In generated code a number has an exponent when it is very large or very small. -/
def NumberStyle.literal : NumberStyle where
  tie := .awayFromZero
  writtenOut e := -6 ≤ e && e ≤ 20
  pointZero := false
  signedZero := false
  notANumber := "NaN"
  infinity := "Infinity"

/-- In a sentence all places of a number are written out. -/
def NumberStyle.sentence : NumberStyle where
  tie := .awayFromZero
  writtenOut _ := true
  pointZero := false
  signedZero := true
  notANumber := "NaN"
  infinity := "inf"

def Binary64.literal (x : Binary64) : String := x.text .literal

def Binary64.sentence (x : Binary64) : String := x.text .sentence

end FormCompiler
