import FormCompiler.Binary64.Basic

/-! The shortest decimal that reads back as a given number. A decimal reads back when it lies in
the interval of numbers that round to the given one. On each grid of decimals only the two
neighbours of the number can be the nearest in the interval. -/

namespace FormCompiler

structure Decimal where
  digits : Nat
  exponent : Int
deriving DecidableEq, Inhabited

/-- Which of two equally near decimals is taken. -/
inductive TieRule
  | toEven
  | awayFromZero
deriving DecidableEq

namespace Binary64

/-- A number and the ends of the interval that rounds to it, as numerators over one denominator.
The ends belong to the interval when the significand is even. -/
structure Interval where
  low : Nat
  value : Nat
  high : Nat
  den : Nat
  closed : Bool

/-- The interval of a finite positive number. Below a power of two the neighbours are half as
far apart. -/
def interval (x : Binary64) : Interval :=
  let m := x.significand
  let below := if m = leadingBit ∧ -1074 < x.scale then 1 else 2
  let quarter := x.scale - 2
  let factor := if 0 ≤ quarter then 1 <<< quarter.toNat else 1
  { low := (4 * m - below) * factor
    value := 4 * m * factor
    high := (4 * m + 2) * factor
    den := if 0 ≤ quarter then 1 else 1 <<< (-quarter).toNat
    closed := m % 2 == 0 }

def decimalLength (n : Nat) : Nat := (Nat.toDigits 10 n).length

namespace Interval

def inUnits (i : Interval) (exponent : Int) : Interval :=
  if 0 ≤ exponent then { i with den := i.den * powerOfTen exponent.toNat }
  else
    let factor := powerOfTen (-exponent).toNat
    { i with low := i.low * factor, value := i.value * factor, high := i.high * factor }

def holds (i : Interval) (n : Nat) : Bool :=
  if i.closed then i.low ≤ n * i.den && n * i.den ≤ i.high
  else i.low < n * i.den && n * i.den < i.high

/-- The whole number of the interval that is nearest to its value, if it holds any. -/
def nearest? (i : Interval) (tie : TieRule) : Option Nat :=
  let floor := i.value / i.den
  let rest := i.value % i.den
  match i.holds floor, i.holds (floor + 1) with
  | false, false => none
  | true, false => some floor
  | false, true => some (floor + 1)
  | true, true =>
    if 2 * rest < i.den then some floor
    else if i.den < 2 * rest then some (floor + 1)
    else match tie with
      | .awayFromZero => some (floor + 1)
      | .toEven => some (if floor % 2 = 0 then floor else floor + 1)

/-- How many digits the value has before the point; zero or below counts the zeros after it. -/
def magnitude (i : Interval) : Int :=
  if i.den ≤ i.value then decimalLength (i.value / i.den)
  else 1 - (decimalLength ((i.den + i.value - 1) / i.value - 1) : Int)

end Interval

def stripZeros : Nat → Decimal → Decimal
  | 0, d => d
  | fuel + 1, d =>
    if d.digits % 10 = 0 ∧ d.digits ≠ 0 then stripZeros fuel ⟨d.digits / 10, d.exponent + 1⟩
    else d

/-- The shortest decimal that reads back as the magnitude of a finite number. Seventeen digits
are always enough. -/
def shortest (tie : TieRule) (x : Binary64) : Decimal :=
  if x.significand = 0 then ⟨0, 0⟩ else
    let i := x.interval
    let grid (n : Nat) : Int := i.magnitude - 1 - n
    let onGrid (e : Int) : Option Decimal := ((i.inUnits e).nearest? tie).map (Decimal.mk · e)
    match ((List.range 17).map grid).findSome? onGrid with
    | some d => stripZeros 17 d
    | none => ⟨0, 0⟩

end Binary64

end FormCompiler
