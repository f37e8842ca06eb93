/-! Numbers in 64-bit binary floating point, held as their bits. Order, sign and parts are
computed on whole numbers, so statements about them need no other theory of floating point. -/

namespace FormCompiler

structure Binary64 where
  bits : UInt64
deriving DecidableEq, Inhabited

namespace Binary64

def signBit : Nat := 0x8000000000000000

/-- The weight of the leading bit of a full significand. It is not stored: in its place the bits
of the exponent begin. -/
def leadingBit : Nat := 0x10000000000000

/-- The bits without the sign, as one number. Codes of finite numbers are ordered as their
magnitudes are. -/
def code (x : Binary64) : Nat := x.bits.toNat % signBit

/-- The code of infinity: finite numbers lie below it, and above it is not a number. -/
def infinityCode : Nat := 0x7ff0000000000000

def isNegative (x : Binary64) : Bool := decide (signBit ≤ x.bits.toNat)

def isNaN (x : Binary64) : Bool := decide (infinityCode < x.code)

def isFinite (x : Binary64) : Bool := decide (x.code < infinityCode)

def isZero (x : Binary64) : Bool := decide (x.code = 0)

/-- A whole number that orders all numbers; both zeros have the key 0. -/
def key (x : Binary64) : Int := if x.isNegative then -(x.code : Int) else x.code

/-- Not a number is neither below nor above anything. -/
def isLess (x y : Binary64) : Bool := !x.isNaN && !y.isNaN && decide (x.key < y.key)

instance : LT Binary64 := ⟨fun x y => x.isLess y = true⟩

instance (x y : Binary64) : Decidable (x < y) := inferInstanceAs (Decidable (x.isLess y = true))

def ofCode (negative : Bool) (code : Nat) : Binary64 :=
  ⟨UInt64.ofNat (if negative then signBit + code else code)⟩

def zero : Binary64 := ⟨0⟩

def one : Binary64 := ⟨0x3ff0000000000000⟩

/-- A finite number is, but for its sign, `significand * 2 ^ scale`. -/
def significand (x : Binary64) : Nat :=
  if x.code < leadingBit then x.code else x.code % leadingBit + leadingBit

def scale (x : Binary64) : Int :=
  if x.code < leadingBit then -1074 else (x.code / leadingBit : Nat) - 1075

def powerOfTen (n : Nat) : Nat := Nat.pow 10 n

/-- The whole part of the magnitude of a finite number. -/
def wholePart (x : Binary64) : Nat :=
  if 0 ≤ x.scale then x.significand <<< x.scale.toNat
  else x.significand >>> (-x.scale).toNat

/-! ## Order

What is not a number stands outside the order, so that only among numbers one of two is at most the
other. -/

instance : LE Binary64 :=
  ⟨fun x y => x.isNaN = false ∧ y.isNaN = false ∧ x.key ≤ y.key⟩

theorem le_iff {x y : Binary64} :
    x ≤ y ↔ x.isNaN = false ∧ y.isNaN = false ∧ x.key ≤ y.key := Iff.rfl

theorem lt_iff {x y : Binary64} :
    x < y ↔ x.isNaN = false ∧ y.isNaN = false ∧ x.key < y.key := by
  change x.isLess y = true ↔ _
  simp [isLess, and_assoc]

theorem not_lt_iff_le {x y : Binary64} (hx : x.isNaN = false) (hy : y.isNaN = false) :
    ¬ x < y ↔ y ≤ x := by
  simp [lt_iff, le_iff, hx, hy]

theorem le_refl {x : Binary64} (h : x.isNaN = false) : x ≤ x :=
  le_iff.mpr ⟨h, h, Int.le_refl _⟩

theorem le_trans {x y z : Binary64} (hxy : x ≤ y) (hyz : y ≤ z) : x ≤ z :=
  le_iff.mpr ⟨hxy.1, hyz.2.1, Int.le_trans hxy.2.2 hyz.2.2⟩

theorem isNaN_of_isFinite {x : Binary64} (h : x.isFinite = true) : x.isNaN = false := by
  have hcode : x.code < infinityCode := of_decide_eq_true h
  exact decide_eq_false (by omega)

end Binary64

end FormCompiler
