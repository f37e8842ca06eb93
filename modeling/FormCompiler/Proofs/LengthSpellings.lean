import FormCompiler.Proofs.Binary64Rounding
import FormCompiler.Proofs.Numeral

/-! A length in an exchange document may be a number or the text that writes the number. The text
is read digit by digit and the number through binary floating point, so the two agree only on
lengths that rounding leaves alone, and on the greatest of all. -/

namespace FormCompiler

namespace Binary64

variable {n : Nat}

theorem spacing_le (hn : 0 < n) : spacing n ≤ n := by
  have h := (leading_bounds hn 0).1
  rw [Nat.zero_sub, Nat.shiftLeft_zero, Nat.shiftLeft_zero, Nat.one_mul] at h
  refine Nat.le_trans ?_ h
  rw [spacing, Nat.one_shiftLeft, Nat.one_shiftLeft]
  exact Nat.pow_le_pow_right (by decide) (by omega)

theorem spacing_dvd_of_le (h : n ≤ 2 * leadingBit) : spacing n ∣ n := by
  rcases Nat.lt_or_eq_of_le h with hlt | rfl
  · have hlog : n.log2 < 53 := by
      by_cases hn : n = 0
      · rw [hn]
        decide
      · exact (Nat.log2_lt hn).mpr hlt
    rw [spacing, Nat.sub_eq_zero_of_le (by omega)]
    exact Nat.one_dvd n
  · decide

theorem IsNearest.pos {m : Nat} (hn : 0 < n) (h : IsNearest (spacing n) n m) : 0 < m := by
  have hle := spacing_le hn
  have hnear := h.near
  omega

/-- The greatest whole number of 64 bits is rounded up beyond them. -/
theorem IsNearest.max_le {m : Nat} (h : IsNearest (spacing (UInt64.size - 1)) (UInt64.size - 1) m) :
    UInt64.size - 1 ≤ m := by
  have hspacing : spacing (UInt64.size - 1) = 2048 := by decide
  obtain ⟨⟨q, rfl⟩, ⟨_, hnear⟩, _⟩ := h
  rw [hspacing] at *
  simp only [UInt64.size] at *
  omega

end Binary64

namespace Exchange

theorem set_of_pos {n : Nat} (hpos : 0 < n) :
    ((some n).filter (0 < ·)).map UInt64.ofNat = some (.ofNat n) := by
  rw [Option.filter, if_pos (decide_eq_true hpos), Option.map_some]

theorem maxLength?_string {s : String} {n : Nat} (h : leadingNumber? s = some n) (hpos : 0 < n) :
    maxLength? (.string s) = some (.ofNat n) := by
  simp only [maxLength?, h, set_of_pos hpos]

theorem maxLength?_number {x : Number} {n : Nat} (h : wholePart? x.toBinary64 = some n)
    (hpos : 0 < n) : maxLength? (.number x) = some (.ofNat n) := by
  simp only [maxLength?, h, set_of_pos hpos]

/-- A whole number is read as the nearest one of 53 leading bits, cut down to 64 bits. -/
theorem exists_wholePart?_ofInt {n : Nat} (hpos : 0 < n) (hlt : n < UInt64.size) :
    ∃ m, Binary64.IsNearest (Binary64.spacing n) n m ∧
      wholePart? (.ofInt n) = some (min m (UInt64.size - 1)) := by
  refine ⟨_, Binary64.isNearest_roundDiv (Binary64.spacing_pos n), ?_⟩
  rw [wholePart?, Binary64.isFinite_ofInt hpos hlt, Binary64.isNegative_ofInt,
    Binary64.wholePart_ofInt hpos hlt]
  rfl

/-- The entry with another length. -/
def Entry.withMaxLength (e : Entry) (length : Json) : Entry :=
  { e with spec := { e.spec with maxLength := length } }

/-- A text sets the length that it writes. A number sets the length to which it is rounded, but at
most the greatest one. -/
theorem Entry.maxLength_of_spellings (e : Entry) (position : Nat) {n : Nat} (hpos : 0 < n)
    (hlt : n < UInt64.size) :
    ((e.withMaxLength (.string (toString n))).toField position).maxLength = some (.ofNat n) ∧
    (∃ m, Binary64.IsNearest (Binary64.spacing n) n m ∧
      ((e.withMaxLength (.ofNat n)).toField position).maxLength =
        some (.ofNat (min m (UInt64.size - 1)))) ∧
    (((e.withMaxLength (.ofNat n)).toField position).maxLength = some (.ofNat n) ↔
      Binary64.spacing n ∣ n ∨ n = UInt64.size - 1) ∧
    (n ≤ 2 * Binary64.leadingBit →
      ((e.withMaxLength (.ofNat n)).toField position).maxLength = some (.ofNat n)) := by
  have htext : maxLength? (.string (toString n)) = some (.ofNat n) :=
    maxLength?_string (leadingNumber?_toString hlt) hpos
  obtain ⟨m, hm, hwhole⟩ := exists_wholePart?_ofInt hpos hlt
  have hnumber : maxLength? (.ofNat n) = some (.ofNat (min m (UInt64.size - 1))) :=
    maxLength?_number hwhole (Nat.lt_min.mpr ⟨hm.pos hpos, by decide⟩)
  have hexact : maxLength? (.ofNat n) = some (.ofNat n) ↔
      Binary64.spacing n ∣ n ∨ n = UInt64.size - 1 := by
    rw [hnumber, ← hm.eq_iff (Binary64.spacing_pos n), Option.some_inj]
    have hsize : 0 < UInt64.size := by decide
    constructor
    · intro h
      have hcut := congrArg UInt64.toNat h
      rw [UInt64.toNat_ofNat_of_lt' (by omega), UInt64.toNat_ofNat_of_lt' hlt] at hcut
      omega
    · rintro (rfl | rfl)
      · rw [Nat.min_eq_left (by omega)]
      · rw [Nat.min_eq_right hm.max_le]
  exact ⟨htext, ⟨m, hm, hnumber⟩, hexact,
    fun hle => hexact.mpr (Or.inl (Binary64.spacing_dvd_of_le hle))⟩

/-- The greatest length is rounded up beyond 64 bits and cut down to itself. -/
theorem Entry.maxLength_of_spellings_greatest :
    let e : Entry := { name := "code" }
    let n := UInt64.size - 1
    0 < n ∧ n < UInt64.size ∧ ((e.withMaxLength (.ofNat n)).toField 1).maxLength = some (.ofNat n) := by
  intro e n
  have hpos : 0 < n := by decide
  have hlt : n < UInt64.size := by decide
  obtain ⟨_, _, hexact, _⟩ := e.maxLength_of_spellings 1 hpos hlt
  exact ⟨hpos, hlt, hexact.mpr (Or.inr rfl)⟩

/-- One more than what 53 bits hold is read as one less when it is written as a number. -/
theorem length_number_rounded :
    let e : Entry := { name := "code" }
    ((e.withMaxLength (.string "9007199254740993")).toField 1).maxLength = some 9007199254740993 ∧
      ((e.withMaxLength (.ofNat 9007199254740993)).toField 1).maxLength = some 9007199254740992 := by
  decide

end Exchange

end FormCompiler
