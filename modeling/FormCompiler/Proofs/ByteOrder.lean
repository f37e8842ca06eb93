import Mathlib.Data.List.Lex

/-! Texts in the order of their characters are in the order of their bytes. The encoding puts a
number into one to four bytes, the highest bits first, and begins a longer code with a greater byte.
So of two codes the lesser number has the lesser code, whatever bytes follow. -/

namespace FormCompiler.Text

/-- The bytes of a text in UTF-8. -/
def bytes (s : String) : List UInt8 := s.toUTF8.data.toList

theorem bytes_eq_flatMap (s : String) : bytes s = s.toList.flatMap String.utf8EncodeChar := by
  have hs : s.toUTF8 = s.toList.utf8Encode := String.utf8Encode_toList.symm
  rw [bytes, hs, List.utf8Encode]
  simp

/-- Codes of the numbers below a bound, in the order of the numbers whatever follows the codes. -/
def Ascends (bound : Nat) (code : Nat → List UInt8) : Prop :=
  ∀ m n, m < n → n < bound → ∀ x y, code m ++ x < code n ++ y

theorem cons_ofNat_lt {m n : Nat} (h : m < n) (hn : n < 256) (x y : List UInt8) :
    UInt8.ofNat m :: x < UInt8.ofNat n :: y := by
  have hlt : UInt8.ofNat m < UInt8.ofNat n := by
    rw [UInt8.lt_iff_toNat_lt, UInt8.toNat_ofNat', UInt8.toNat_ofNat']
    omega
  exact List.cons_lt_cons_iff.mpr (Or.inl hlt)

namespace Ascends

variable {bound : Nat} {code : Nat → List UInt8}

theorem lead (offset : Nat) : Ascends (256 - offset) fun n => [UInt8.ofNat (n + offset)] := by
  intro m n h hn x y
  exact cons_ofNat_lt (by omega) (by omega) x y

/-- A byte that follows carries the lowest six bits. -/
theorem next (h : Ascends bound code) :
    Ascends (64 * bound) fun n => code (n / 64) ++ [UInt8.ofNat (n % 64 + 128)] := by
  intro m n hmn hn x y
  simp only [List.append_assoc]
  rcases Nat.lt_or_ge (m / 64) (n / 64) with hlt | hge
  · exact h _ _ hlt (by omega) _ _
  · have heq : m / 64 = n / 64 := by omega
    rw [heq]
    exact List.append_left_lt (cons_ofNat_lt (by omega) (by omega) x y)

theorem congr {smaller : Nat} {other : Nat → List UInt8} (h : Ascends bound code)
    (hle : smaller ≤ bound) (hsame : ∀ n, n < smaller → other n = code n) :
    Ascends smaller other := by
  intro m n hmn hn x y
  rw [hsame m (by omega), hsame n hn]
  exact h m n hmn (by omega) x y

theorem ite {last : Nat} {high : Nat → List UInt8} (hlow : Ascends (last + 1) code)
    (hhigh : Ascends bound high)
    (hcross : ∀ m n, m ≤ last → last < n → n < bound → ∀ x y, code m ++ x < high n ++ y) :
    Ascends bound fun n => if n ≤ last then code n else high n := by
  intro m n hmn hn x y
  by_cases hm : m ≤ last
  · by_cases hnl : n ≤ last
    · simpa [hm, hnl] using hlow m n hmn (by omega) x y
    · simpa [hm, hnl] using hcross m n hm (by omega) hn x y
  · have hnl : ¬ n ≤ last := by omega
    simpa [hm, hnl] using hhigh m n hmn hn x y

end Ascends

/-! ## Codes of characters -/

theorem ascends_one : Ascends 0x80 fun n => [UInt8.ofNat n] :=
  (Ascends.lead 0).congr (by decide) fun _ _ => rfl

theorem ascends_two :
    Ascends 0x800 fun n => [UInt8.ofNat (n / 64 % 32 + 192), UInt8.ofNat (n % 64 + 128)] := by
  refine (Ascends.lead 192).next.congr (by decide) fun n hn => ?_
  have hlead : n / 64 % 32 = n / 64 := Nat.mod_eq_of_lt (by omega)
  simp only [hlead, List.cons_append, List.nil_append]

theorem ascends_three :
    Ascends 0x10000 fun n =>
      [UInt8.ofNat (n / 4096 % 16 + 224), UInt8.ofNat (n / 64 % 64 + 128),
        UInt8.ofNat (n % 64 + 128)] := by
  refine (Ascends.lead 224).next.next.congr (by decide) fun n hn => ?_
  have hlead : n / 4096 % 16 = n / 64 / 64 := by omega
  simp only [hlead, List.cons_append, List.nil_append]

theorem ascends_four :
    Ascends 0x110000 fun n =>
      [UInt8.ofNat (n / 262144 % 8 + 240), UInt8.ofNat (n / 4096 % 64 + 128),
        UInt8.ofNat (n / 64 % 64 + 128), UInt8.ofNat (n % 64 + 128)] := by
  refine (Ascends.lead 240).next.next.next.congr (by decide) fun n hn => ?_
  have hlead : n / 262144 % 8 = n / 64 / 64 / 64 := by omega
  have hnext : n / 4096 = n / 64 / 64 := by omega
  simp only [hlead, hnext, List.cons_append, List.nil_append]

/-- A longer code begins with a greater byte, so codes of different lengths are in order as well. -/
theorem utf8EncodeChar_append_lt {c d : Char} (h : c < d) (x y : List UInt8) :
    String.utf8EncodeChar c ++ x < String.utf8EncodeChar d ++ y := by
  have hd : d.val.toNat < 0x110000 := by
    have hvalid := d.valid
    simp only [UInt32.isValidChar, Nat.isValidChar] at hvalid
    omega
  have hlong := ascends_three.ite ascends_four fun m n hm hn hbound x y =>
    cons_ofNat_lt (by omega) (by omega) _ _
  have hlonger := ascends_two.ite hlong fun m n hm hn hbound x y => by
    split <;> exact cons_ofNat_lt (by omega) (by omega) _ _
  have hall := ascends_one.ite hlonger fun m n hm hn hbound x y => by
    split
    · exact cons_ofNat_lt (by omega) (by omega) _ _
    · split <;> exact cons_ofNat_lt (by omega) (by omega) _ _
  exact hall c.val.toNat d.val.toNat h hd x y

theorem bytes_lt_of_lt {s t : String} (h : s < t) : bytes s < bytes t := by
  have hchars : s.toList < t.toList := h
  rw [bytes_eq_flatMap, bytes_eq_flatMap]
  generalize s.toList = cs at *
  generalize t.toList = ds at *
  induction hchars with
  | @nil d rest =>
    cases hd : String.utf8EncodeChar d with
    | nil => exact absurd hd String.utf8EncodeChar_ne_nil
    | cons b bs => simp [hd]
  | rel hlt => exact utf8EncodeChar_append_lt hlt _ _
  | cons _ ih =>
    rw [List.flatMap_cons, List.flatMap_cons]
    exact List.append_left_lt ih

end FormCompiler.Text
