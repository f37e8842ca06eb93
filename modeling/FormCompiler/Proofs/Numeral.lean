import FormCompiler.Exchange.Import
import FormCompiler.Rule.Derive
import Mathlib.Data.List.TakeWhile

/-! Numbers written in decimal read back as themselves. Hence numbered ids and names differ when
their numbers do, an id gives its number back, and a length survives being written as text. -/

namespace FormCompiler

namespace Text

theorem numeral_toDigits (n : Nat) : numeral (Nat.toDigits 10 n) = n :=
  Nat.ofDigitChars_ten_toDigits

theorem isDigit_of_mem_toDigits {n : Nat} {c : Char} (h : c ∈ Nat.toDigits 10 n) :
    c.isDigit = true :=
  Nat.isDigit_of_mem_toDigits (by decide) (by decide) h

theorem isDigit_iff (c : Char) : c.isDigit = true ↔ 0x30 ≤ c.toNat ∧ c.toNat ≤ 0x39 := by
  simp [Char.isDigit, UInt32.le_iff_toNat_le]

theorem isBlank_of_isDigit {c : Char} (h : c.isDigit = true) : isBlank c = false := by
  have hc := (isDigit_iff c).mp h
  simp only [isBlank, blankRuns, List.any_cons, List.any_nil, Bool.or_false, Bool.or_eq_false_iff,
    Bool.and_eq_false_iff, decide_eq_false_iff_not]
  omega

theorem dropBlank_of_digits {cs : List Char} (h : ∀ c ∈ cs, c.isDigit = true) :
    dropBlank cs = cs := by
  cases cs with
  | nil => rfl
  | cons c rest => simp [dropBlank, isBlank_of_isDigit (h c (by simp))]

end Text

theorem numbered_injective {stem : String} {m n : Nat}
    (h : stem ++ toString m = stem ++ toString n) : m = n := by
  have hs := congrArg String.toList ((String.append_right_inj stem).mp h)
  have hd : Nat.toDigits 10 m = Nat.toDigits 10 n := by simpa using hs
  rw [← Text.numeral_toDigits m, hd, Text.numeral_toDigits n]

theorem elementId_injective {m n : Nat} (h : elementId m = elementId n) : m = n :=
  numbered_injective h

/-- The number of an id that the counter wrote is read back from it. No plus sign is taken off,
because a number begins with a digit. -/
theorem elementNumber?_elementId {n : Nat} (h : n < UInt64.size) :
    elementNumber? (elementId n) = some n := by
  have hrest : "element-".toList.isPrefixOf? (elementId n).toList = some (Nat.toDigits 10 n) := by
    simp only [elementId, String.toList_append, Nat.toString_eq_repr, Nat.toList_repr]
    rfl
  have hdigits : (Nat.toDigits 10 n).all Char.isDigit = true :=
    List.all_eq_true.mpr fun _ => Text.isDigit_of_mem_toDigits
  have hplus (cs : List Char) (hc : Nat.toDigits 10 n = '+' :: cs) : False :=
    absurd (Text.isDigit_of_mem_toDigits (n := n) (c := '+') (by simp [hc])) (by decide)
  have hempty : (Nat.toDigits 10 n).isEmpty = false := by simp
  simp only [elementNumber?, hrest, Option.bind_eq_bind, Option.bind_some, hempty, hdigits,
    Text.numeral_toDigits, h, Bool.not_true, Bool.or_self, Bool.false_eq_true, if_false, if_true]

namespace Exchange

theorem leadingNumber?_of_digits {s : String} (hs : s ≠ "")
    (hd : ∀ c ∈ s.toList, c.isDigit = true) (h : Text.numeral s.toList < UInt64.size) :
    leadingNumber? s = some (Text.numeral s.toList) := by
  have hne : s.toList ≠ [] := by simpa using hs
  have hplus (cs : List Char) (hc : s.toList = '+' :: cs) : False :=
    absurd (hd '+' (by simp [hc])) (by decide)
  have htake : s.toList.takeWhile Char.isDigit = s.toList := List.takeWhile_eq_self_iff.mpr hd
  simp only [leadingNumber?, Text.dropBlank_of_digits hd, htake]
  rw [if_neg]
  simp only [not_or, Nat.not_le]
  exact ⟨hne, h⟩

theorem leadingNumber?_toString {n : Nat} (h : n < UInt64.size) :
    leadingNumber? (toString n) = some n := by
  have hl : (toString n).toList = Nat.toDigits 10 n := Nat.toList_repr
  have hn := leadingNumber?_of_digits (s := toString n) Nat.repr_ne_empty
    (by rw [hl]; exact fun c => Text.isDigit_of_mem_toDigits)
    (by rwa [hl, Text.numeral_toDigits])
  rwa [hl, Text.numeral_toDigits] at hn

/-- A length that is written as text reads back, except that zero is left unset. -/
theorem maxLength?_written (length : Option UInt64) :
    maxLength? (.string ((length.map toString).getD "")) = setLength length := by
  cases length with
  | none => decide
  | some n =>
    have hn : leadingNumber? (toString n) = some n.toNat := leadingNumber?_toString n.toNat_lt
    have hpos : (0 < n.toNat) ↔ 0 < n := by simp [UInt64.lt_iff_toNat_lt]
    by_cases h : 0 < n <;> simp [maxLength?, setLength, hn, Option.filter, hpos, h]

end Exchange

end FormCompiler
