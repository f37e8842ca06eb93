import FormCompiler.Binary64.Rounding
import Mathlib.Algebra.Order.Ring.Nat

/-! What rounding leaves of a number. It never ends in what is not a number. A whole number of up
to 64 bits keeps its leading 53: it becomes the nearest multiple of the weight of the last of them,
and half way between two the even one. -/

namespace FormCompiler.Binary64

section Codes

variable {negative : Bool} {c : Nat}

theorem toNat_bits_ofCode (h : c < signBit) :
    (ofCode negative c).bits.toNat = if negative then signBit + c else c := by
  refine UInt64.toNat_ofNat_of_lt' ?_
  have hsize : signBit + signBit = UInt64.size := rfl
  split <;> omega

theorem code_ofCode (h : c < signBit) : (ofCode negative c).code = c := by
  rw [code, toNat_bits_ofCode h]
  cases negative with
  | false => exact Nat.mod_eq_of_lt h
  | true => exact (Nat.add_mod_left ..).trans (Nat.mod_eq_of_lt h)

theorem isNegative_ofCode (h : c < signBit) : (ofCode negative c).isNegative = negative := by
  rw [isNegative, toNat_bits_ofCode h]
  cases negative with
  | false => exact decide_eq_false (Nat.not_le.mpr h)
  | true => exact decide_eq_true (Nat.le_add_right ..)

theorem lt_signBit (h : c ≤ infinityCode) : c < signBit :=
  Nat.lt_of_le_of_lt h (by decide)

theorem isNaN_ofCode (h : c ≤ infinityCode) : (ofCode negative c).isNaN = false := by
  rw [isNaN, code_ofCode (lt_signBit h)]
  exact decide_eq_false (Nat.not_lt.mpr h)

theorem isNaN_ofRatio (negative : Bool) (num den : Nat) :
    (ofRatio negative num den).isNaN = false := by
  unfold ofRatio
  split
  · exact isNaN_ofCode (Nat.zero_le _)
  · exact isNaN_ofCode (Nat.min_le_left ..)

theorem isNaN_ofDecimal (negative : Bool) (digits : Nat) (exponent : Int) :
    (ofDecimal negative digits exponent).isNaN = false := by
  have hzero : (ofCode negative 0).isNaN = false := isNaN_ofCode (Nat.zero_le _)
  have hinf : (ofCode negative infinityCode).isNaN = false := isNaN_ofCode (Nat.le_refl _)
  simp only [ofDecimal]
  split_ifs <;> simp only [hzero, hinf, isNaN_ofRatio]

theorem isNegative_ofRatio (negative : Bool) (num den : Nat) :
    (ofRatio negative num den).isNegative = negative := by
  unfold ofRatio
  split
  · exact isNegative_ofCode (lt_signBit (Nat.zero_le _))
  · exact isNegative_ofCode (lt_signBit (Nat.min_le_left ..))

end Codes

section Nearest

variable {num den : Nat}

theorem roundDiv_cases (num den : Nat) :
    (roundDiv num den = num / den ∧
        (2 * (num % den) < den ∨ 2 * (num % den) = den ∧ num / den % 2 = 0)) ∨
      (roundDiv num den = num / den + 1 ∧
        (den < 2 * (num % den) ∨ 2 * (num % den) = den ∧ num / den % 2 = 1)) := by
  simp only [roundDiv]
  split <;> omega

theorem roundDiv_mul (hden : 0 < den) (q : Nat) : roundDiv (q * den) den = q := by
  rcases roundDiv_cases (q * den) den with ⟨h, _⟩ | ⟨_, h⟩
  · rw [h, Nat.mul_div_cancel q hden]
  · rw [Nat.mul_mod_left] at h
    omega

theorem roundDiv_one (n : Nat) : roundDiv n 1 = n := by
  simpa using roundDiv_mul Nat.one_pos n

/-- A quotient between two whole numbers is rounded to one between them. -/
theorem roundDiv_bounds {low high : Nat} (hden : 0 < den) (hlow : low * den ≤ num)
    (hhigh : num < high * den) : low ≤ roundDiv num den ∧ roundDiv num den ≤ high := by
  have hl : low ≤ num / den := (Nat.le_div_iff_mul_le hden).mpr hlow
  have hh : num / den < high := (Nat.div_lt_iff_lt_mul hden).mpr hhigh
  rcases roundDiv_cases num den with ⟨h, _⟩ | ⟨h, _⟩ <;> omega

/-- A multiple of the distance that is nearest to a number, an even one if two are. -/
structure IsNearest (distance n m : Nat) : Prop where
  dvd : distance ∣ m
  near : 2 * m ≤ 2 * n + distance ∧ 2 * n ≤ 2 * m + distance
  even : 2 * m = 2 * n + distance ∨ 2 * n = 2 * m + distance → 2 * distance ∣ m

theorem isNearest_roundDiv (hden : 0 < den) : IsNearest den num (roundDiv num den * den) := by
  have hnum : num / den * den + num % den = num := Nat.div_add_mod' num den
  have hmod := Nat.mod_lt num hden
  have hnext : (num / den + 1) * den = num / den * den + den := Nat.succ_mul ..
  have heven {q : Nat} (h : q % 2 = 0) : 2 * den ∣ q * den :=
    Nat.mul_dvd_mul_right (Nat.dvd_of_mod_eq_zero h) den
  refine ⟨Nat.dvd_mul_left .., ?_, ?_⟩
  · rcases roundDiv_cases num den with ⟨h, _⟩ | ⟨h, _⟩ <;> rw [h] <;> omega
  · intro htie
    apply heven
    rcases roundDiv_cases num den with ⟨h, _⟩ | ⟨h, _⟩ <;> rw [h] at htie ⊢ <;> omega

theorem IsNearest.eq_iff {distance n m : Nat} (h : IsNearest distance n m) (hd : 0 < distance) :
    m = n ↔ distance ∣ n := by
  constructor
  · rintro rfl
    exact h.dvd
  · rintro ⟨b, rfl⟩
    obtain ⟨⟨a, rfl⟩, hnear, _⟩ := h
    rcases Nat.lt_trichotomy a b with hlt | rfl | hlt
    · have hstep := Nat.mul_le_mul_left distance hlt
      rw [Nat.mul_succ] at hstep
      omega
    · rfl
    · have hstep := Nat.mul_le_mul_left distance hlt
      rw [Nat.mul_succ] at hstep
      omega

end Nearest

section WholeNumbers

variable {x : Binary64} {n : Nat}

/-- The parts of a number whose significand may have carried into the exponent: at its upper end it
adds one there and begins anew. -/
theorem parts_of_code {e r : Nat} (hx : x.code = e * leadingBit + r) (hlow : leadingBit ≤ r)
    (hhigh : r ≤ 2 * leadingBit) :
    (x.significand = r ∧ x.scale = (e : Int) - 1074) ∨
      (r = 2 * leadingBit ∧ x.significand = leadingBit ∧ x.scale = (e : Int) - 1073) := by
  have hfull : ¬ e * leadingBit + r < leadingBit := by omega
  rw [significand, scale, hx, if_neg hfull, if_neg hfull]
  simp only [leadingBit] at *
  omega

theorem wholePart_of_shiftLeft {e k r : Nat} (he : e = 1074 + k) (hx : x.code = e * leadingBit + r)
    (hlow : leadingBit ≤ r) (hhigh : r ≤ 2 * leadingBit) : x.wholePart = r <<< k := by
  rcases parts_of_code hx hlow hhigh with ⟨hr, hs⟩ | ⟨hcarry, hr, hs⟩
  · have hscale : x.scale = (k : Nat) := by omega
    rw [wholePart, hr, hscale, if_pos (Int.natCast_nonneg k), Int.toNat_natCast]
  · have hscale : x.scale = (k + 1 : Nat) := by omega
    rw [wholePart, hr, hscale, if_pos (Int.natCast_nonneg _), Int.toNat_natCast, hcarry,
      Nat.shiftLeft_succ_inside]

theorem wholePart_of_shiftRight {e k r : Nat} (he : e + k = 1074) (hk : 0 < k)
    (hx : x.code = e * leadingBit + r) (hlow : leadingBit ≤ r) (hhigh : r < 2 * leadingBit) :
    x.wholePart = r >>> k := by
  rcases parts_of_code hx hlow (Nat.le_of_lt hhigh) with ⟨hr, hs⟩ | ⟨hcarry, _⟩
  · have hscale : x.scale = -(k : Nat) := by omega
    rw [wholePart, hr, hscale, if_neg (by omega), Int.neg_neg, Int.toNat_natCast]
  · omega

/-- The weight of the last of the 53 leading bits of a whole number. One of fewer bits has them
all. -/
def spacing (n : Nat) : Nat := 1 <<< (n.log2 - 52)

theorem spacing_pos (n : Nat) : 0 < spacing n := by
  simp [spacing, Nat.shiftLeft_eq]

theorem unscaled_log2 (n bits : Nat) :
    unscaled n 1 ((n.log2 : Int) - bits) = (n <<< (bits - n.log2), 1 <<< (n.log2 - bits)) := by
  unfold unscaled
  split
  · have hbits : bits - n.log2 = 0 := by omega
    have hscale : ((n.log2 : Int) - bits).toNat = n.log2 - bits := by omega
    rw [hbits, hscale, Nat.shiftLeft_zero]
  · have hbits : n.log2 - bits = 0 := by omega
    have hscale : (-((n.log2 : Int) - bits)).toNat = bits - n.log2 := by omega
    rw [hbits, hscale, Nat.shiftLeft_zero]

/-- Scaled so that the leading bit has a given weight, a number lies between this weight and its
double. -/
theorem leading_bounds (hn : 0 < n) (bits : Nat) :
    1 <<< bits * 1 <<< (n.log2 - bits) ≤ n <<< (bits - n.log2) ∧
      n <<< (bits - n.log2) < 2 * 1 <<< bits * 1 <<< (n.log2 - bits) := by
  have hlow : 2 ^ n.log2 ≤ n := Nat.log2_self_le (Nat.ne_of_gt hn)
  have hhigh : n < 2 * 2 ^ n.log2 := by
    rw [← Nat.pow_succ']
    exact Nat.lt_log2_self
  have hscale : 2 ^ bits * 2 ^ (n.log2 - bits) = 2 ^ n.log2 * 2 ^ (bits - n.log2) := by
    rw [← Nat.pow_add, ← Nat.pow_add]
    congr 1
    omega
  have hpos : 0 < 2 ^ (bits - n.log2) := Nat.two_pow_pos _
  simp only [Nat.shiftLeft_eq, Nat.one_mul]
  rw [Nat.mul_assoc, hscale, ← Nat.mul_assoc]
  exact ⟨Nat.mul_le_mul_right _ hlow, Nat.mul_lt_mul_of_pos_right hhigh hpos⟩

theorem scaleFor_one (hn : 0 < n) : scaleFor n 1 = (n.log2 : Int) - 52 := by
  have hone : Nat.log2 1 = 0 := by decide
  have hlow : max ((n.log2 : Int) - (Nat.log2 1 : Nat) - 53) (-1074) =
      (n.log2 : Int) - (53 : Nat) := by omega
  have hfull : ¬ n <<< (53 - n.log2) / 1 <<< (n.log2 - 53) < 2 * leadingBit := by
    rw [Nat.not_lt, Nat.le_div_iff_mul_le (by simp [Nat.shiftLeft_eq])]
    exact (leading_bounds hn 53).1
  simp only [scaleFor, hlow, unscaled_log2, if_neg hfull]
  omega

/-- The significand that a whole number has after rounding, before it carries. -/
def rounded (n : Nat) : Nat := roundDiv (n <<< (52 - n.log2)) (spacing n)

theorem rounded_bounds (hn : 0 < n) : leadingBit ≤ rounded n ∧ rounded n ≤ 2 * leadingBit :=
  have h := leading_bounds hn 52
  roundDiv_bounds (spacing_pos n) h.1 h.2

theorem code_bound (hn : 0 < n) (hlt : n < UInt64.size) :
    (n.log2 + 1022) * leadingBit + rounded n < infinityCode := by
  have hbits : n.log2 < 64 := (Nat.log2_lt (Nat.ne_of_gt hn)).mpr hlt
  have hr := (rounded_bounds hn).2
  simp only [leadingBit, infinityCode] at *
  omega

theorem code_ofInt (hn : 0 < n) (hlt : n < UInt64.size) :
    (ofInt n).code = (n.log2 + 1022) * leadingBit + rounded n := by
  have hscale : ((n.log2 : Int) - 52 + 1074).toNat = n.log2 + 1022 := by omega
  have hunscaled : unscaled n 1 ((n.log2 : Int) - 52) = (n <<< (52 - n.log2), spacing n) :=
    unscaled_log2 n 52
  have hle := Nat.le_of_lt (code_bound hn hlt)
  simp only [ofInt, ofRatio, Int.natAbs_natCast, if_neg (Nat.ne_of_gt hn), scaleFor_one hn,
    hunscaled, hscale]
  rw [← rounded, Nat.min_eq_right hle, code_ofCode (lt_signBit hle)]

theorem isFinite_ofInt (hn : 0 < n) (hlt : n < UInt64.size) : (ofInt n).isFinite = true := by
  rw [isFinite, code_ofInt hn hlt]
  exact decide_eq_true (code_bound hn hlt)

theorem isNegative_ofInt (n : Nat) : (ofInt n).isNegative = false := by
  rw [ofInt, isNegative_ofRatio]
  exact decide_eq_false (Int.not_lt.mpr (Int.natCast_nonneg n))

/-- A whole number of up to 64 bits is rounded to a multiple of its spacing. -/
theorem wholePart_ofInt (hn : 0 < n) (hlt : n < UInt64.size) :
    (ofInt n).wholePart = roundDiv n (spacing n) * spacing n := by
  have hcode := code_ofInt hn hlt
  obtain ⟨hlow, hhigh⟩ := rounded_bounds hn
  rcases Nat.lt_or_ge n.log2 52 with hfew | hmany
  · have hspacing : spacing n = 1 := by rw [spacing, Nat.sub_eq_zero_of_le (Nat.le_of_lt hfew)]; rfl
    have hrounded : rounded n = n <<< (52 - n.log2) := by rw [rounded, hspacing, roundDiv_one]
    have hhigh : rounded n < 2 * leadingBit := by
      have h := (leading_bounds hn 52).2
      rwa [← hrounded, ← spacing, hspacing, Nat.mul_one] at h
    have hexp : n.log2 + 1022 + (52 - n.log2) = 1074 := by omega
    rw [wholePart_of_shiftRight hexp (Nat.sub_pos_of_lt hfew) hcode hlow hhigh, hrounded,
      Nat.shiftLeft_shiftRight, hspacing, roundDiv_one, Nat.mul_one]
  · have hrounded : rounded n = roundDiv n (spacing n) := by
      rw [rounded, Nat.sub_eq_zero_of_le hmany, Nat.shiftLeft_zero]
    have hexp : n.log2 + 1022 = 1074 + (n.log2 - 52) := by omega
    rw [wholePart_of_shiftLeft hexp hcode hlow hhigh, hrounded, spacing, Nat.shiftLeft_eq,
      Nat.shiftLeft_eq, Nat.one_mul]

end WholeNumbers

end FormCompiler.Binary64
