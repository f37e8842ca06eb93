import FormCompiler.Decimal.Notation
import FormCompiler.Proofs.Delimited

/-! The characters of a printed number. A finite one consists of digits, signs, a point and the mark
of an exponent, whatever its style. Hence neither a number nor a length brings a delimiter into the
text that it is printed into. -/

namespace FormCompiler

namespace Text

/-- None of the characters is in the text. -/
def Avoids (chars : List Char) (s : String) : Prop := ∀ d ∈ chars, d ∉ s.toList

instance (chars : List Char) (s : String) : Decidable (Avoids chars s) :=
  List.decidableBAll (· ∉ s.toList) chars

variable {chars : List Char} {s t : String}

theorem Avoids.append (hs : Avoids chars s) (ht : Avoids chars t) : Avoids chars (s ++ t) := by
  intro d hd
  rw [String.toList_append, List.mem_append]
  exact not_or.mpr ⟨hs d hd, ht d hd⟩

theorem avoids_toString (n : UInt64) (h : chars.all (fun d => !d.isDigit) = true) :
    Avoids chars (toString n) := by
  intro d hd
  have hdigit : (!d.isDigit) = true := List.all_eq_true.mp h d hd
  exact not_mem_toString n (by simpa using hdigit)

/-- What a finite number is written with. -/
def isNumberChar (c : Char) : Bool := c.isDigit || ['-', '+', '.', 'e'].contains c

theorem isNumberChar_of_mem_toDigits (n : Nat) : ∀ c ∈ Nat.toDigits 10 n, isNumberChar c = true := by
  intro c hc
  simp [isNumberChar, isDigit_of_mem_toDigits hc]

end Text

open Text

namespace Decimal

theorem isNumberChar_plain (pointZero : Bool) (d : Decimal) :
    ∀ c ∈ d.plain pointZero, isNumberChar c = true := by
  have hdigits : ∀ c ∈ d.digitText, isNumberChar c = true := isNumberChar_of_mem_toDigits _
  have hzeros (n : Nat) : ∀ c ∈ List.replicate n '0', isNumberChar c = true := by
    intro c hc
    rw [List.eq_of_mem_replicate hc]
    rfl
  have hlead : ∀ c ∈ ['0', '.'], isNumberChar c = true := List.all_eq_true.mp rfl
  have hpoint : ∀ c ∈ ['.'], isNumberChar c = true := List.all_eq_true.mp rfl
  have hfraction : ∀ c ∈ if pointZero then ['.', '0'] else [], isNumberChar c = true :=
    List.all_eq_true.mp (by cases pointZero <;> rfl)
  simp only [plain]
  split
  · rw [List.forall_mem_append, List.forall_mem_append]
    exact ⟨⟨hlead, hzeros _⟩, hdigits⟩
  · split
    · rw [List.forall_mem_append, List.forall_mem_append]
      exact ⟨⟨hdigits, hzeros _⟩, hfraction⟩
    · rw [List.forall_mem_append, List.forall_mem_append]
      exact ⟨⟨fun c hc => hdigits c (List.mem_of_mem_take hc), hpoint⟩,
        fun c hc => hdigits c (List.mem_of_mem_drop hc)⟩

theorem isNumberChar_scientific (d : Decimal) : ∀ c ∈ d.scientific, isNumberChar c = true := by
  have hdigits : ∀ c ∈ d.digitText, isNumberChar c = true := isNumberChar_of_mem_toDigits _
  simp only [scientific]
  rw [List.forall_mem_append, List.forall_mem_append]
  refine ⟨⟨?_, ?_⟩, isNumberChar_of_mem_toDigits _⟩
  · split
    · next first second rest heq =>
      simp only [heq, List.forall_mem_cons] at hdigits ⊢
      exact ⟨hdigits.1, rfl, hdigits.2⟩
    · exact hdigits
  · split
    · exact List.all_eq_true.mp rfl
    · exact List.all_eq_true.mp rfl

end Decimal

namespace Binary64

variable {x : Binary64}

theorem isNumberChar_text (hx : x.isFinite = true) (style : NumberStyle) :
    ∀ c ∈ (x.text style).toList, isNumberChar c = true := by
  have hsign (negative : Bool) : ∀ c ∈ if negative then ['-'] else [], isNumberChar c = true :=
    List.all_eq_true.mp (by cases negative <;> rfl)
  simp only [text, isNaN_of_isFinite hx, hx, Bool.false_eq_true, if_false, Bool.not_true,
    String.toList_ofList, List.forall_mem_append]
  refine ⟨hsign _, ?_⟩
  split
  · exact Decimal.isNumberChar_plain _ _
  · exact Decimal.isNumberChar_scientific _

theorem literal_of_not_isFinite (hx : x.isFinite = false) :
    x.literal ∈ ["NaN", "Infinity", "-Infinity"] := by
  unfold literal text
  split
  · decide
  · simp only [hx, Bool.not_false, if_true]
    split <;> decide

theorem avoids_literal (chars : List Char) (x : Binary64)
    (hnumber : chars.all (fun d => !isNumberChar d) = true)
    (hword : ∀ word ∈ ["NaN", "Infinity", "-Infinity"], Avoids chars word) :
    Avoids chars x.literal := by
  cases hx : x.isFinite with
  | true =>
    intro d hd hmem
    have hnot : (!isNumberChar d) = true := List.all_eq_true.mp hnumber d hd
    simp [isNumberChar_text hx _ d hmem] at hnot
  | false => exact hword _ (literal_of_not_isFinite hx)

end Binary64

end FormCompiler
