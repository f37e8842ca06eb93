import FormCompiler.Binary64.Basic

/-! The binary number nearest to a given one. A half way case goes to the even neighbour, and
what lies beyond the largest finite number becomes infinity. -/

namespace FormCompiler.Binary64

def roundDiv (num den : Nat) : Nat :=
  let q := num / den
  let r := num % den
  if den < 2 * r ∨ (den = 2 * r ∧ q % 2 = 1) then q + 1 else q

/-- The fraction `num / den / 2 ^ scale`, as numerator and denominator. -/
def unscaled (num den : Nat) (scale : Int) : Nat × Nat :=
  if 0 ≤ scale then (num, den <<< scale.toNat) else (num <<< (-scale).toNat, den)

/-- The scale that leaves a significand of 53 bits, or of fewer where the scale has reached its
lower end. -/
def scaleFor (num den : Nat) : Int :=
  let low := max ((num.log2 : Int) - den.log2 - 53) (-1074)
  let (a, b) := unscaled num den low
  if a / b < 2 * leadingBit then low else low + 1

/-- The number nearest to `num / den`. A significand that rounds up to the next power of two
carries into the exponent, because the code holds both as one number. -/
def ofRatio (negative : Bool) (num den : Nat) : Binary64 :=
  if num = 0 then ofCode negative 0 else
    let scale := scaleFor num den
    let (a, b) := unscaled num den scale
    ofCode negative (min infinityCode ((scale + 1074).toNat * leadingBit + roundDiv a b))

def ofInt (n : Int) : Binary64 := ofRatio (decide (n < 0)) n.natAbs 1

/-- The number nearest to `digits * 10 ^ exponent`. Powers of ten far outside the range are not
computed: they end in infinity or zero. -/
def ofDecimal (negative : Bool) (digits : Nat) (exponent : Int) : Binary64 :=
  let places : Int := digits.log2 / 3 + 1
  if digits = 0 then ofCode negative 0
  else if 400 < exponent then ofCode negative infinityCode
  else if exponent + places < -400 then ofCode negative 0
  else if 0 ≤ exponent then ofRatio negative (digits * powerOfTen exponent.toNat) 1
  else ofRatio negative digits (powerOfTen (-exponent).toNat)

end FormCompiler.Binary64
