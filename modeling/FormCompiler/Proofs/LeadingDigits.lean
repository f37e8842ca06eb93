import FormCompiler.Proofs.ExchangeSettling
import FormCompiler.Proofs.LengthSpellings
import FormCompiler.Proofs.NumericTexts

/-! Lengths that are given as texts. A text sets the number that it begins with: digits up to the
first other character, after white space and at most one plus sign. What follows the digits does
not matter, and lengths that have been written are read back. -/

namespace FormCompiler

namespace Text

variable {text digits : List Char}

/-- The text has the digits, and no more of them, after white space and at most one plus sign. -/
def LeadingDigits (text digits : List Char) : Prop :=
  ∃ blanks sign rest, (∀ c ∈ blanks, isBlank c = true) ∧ (sign = [] ∨ sign = ['+']) ∧
    (digits ≠ [] ∧ Digits digits) ∧ (∀ c, rest.head? = some c → c.isDigit = false) ∧
    text = blanks ++ sign ++ digits ++ rest

/-- What follows white space and one plus sign. -/
def unsigned (text : List Char) : List Char :=
  match dropBlank text with
  | '+' :: rest => rest
  | rest => rest

theorem unsigned_of_plus {rest : List Char} (h : dropBlank text = '+' :: rest) :
    unsigned text = rest := by
  rw [unsigned, h]
  rfl

theorem unsigned_of_ne (h : ∀ rest, dropBlank text ≠ '+' :: rest) :
    unsigned text = dropBlank text := by
  rw [unsigned]
  split
  case h_1 rest hrest => exact absurd hrest (h rest)
  case h_2 => rfl

theorem exists_unsigned (text : List Char) : ∃ blanks sign, (∀ c ∈ blanks, isBlank c = true) ∧
    (sign = [] ∨ sign = ['+']) ∧ text = blanks ++ sign ++ unsigned text := by
  have htext : text = text.takeWhile isBlank ++ dropBlank text :=
    List.takeWhile_append_dropWhile.symm
  have hblanks : ∀ c ∈ text.takeWhile isBlank, isBlank c = true := fun _ => List.mem_takeWhile_imp
  by_cases hplus : ∃ rest, dropBlank text = '+' :: rest
  · obtain ⟨rest, hrest⟩ := hplus
    refine ⟨_, ['+'], hblanks, Or.inr rfl, ?_⟩
    rw [unsigned_of_plus hrest, List.append_assoc, List.singleton_append, ← hrest]
    exact htext
  · rw [not_exists] at hplus
    refine ⟨_, [], hblanks, Or.inl rfl, ?_⟩
    rw [unsigned_of_ne hplus, List.append_nil]
    exact htext

/-- Neither a digit nor the plus sign is taken for white space. -/
theorem unsigned_append {blanks sign rest : List Char} {c : Char}
    (hblanks : ∀ c ∈ blanks, isBlank c = true) (hsign : sign = [] ∨ sign = ['+'])
    (hc : c.isDigit = true) : unsigned (blanks ++ sign ++ c :: rest) = c :: rest := by
  have hdrop (body : List Char) : dropBlank (blanks ++ body) = dropBlank body :=
    List.dropWhile_append_of_pos hblanks
  rcases hsign with rfl | rfl
  · have hfirst : dropBlank (blanks ++ [] ++ c :: rest) = c :: rest := by
      rw [List.append_nil, hdrop]
      exact List.dropWhile_cons_of_neg (by simp [isBlank_of_isDigit hc])
    rw [unsigned_of_ne, hfirst]
    intro more h
    rw [hfirst] at h
    rw [(List.cons.inj h).1] at hc
    exact absurd hc (by decide)
  · refine unsigned_of_plus ?_
    rw [List.append_assoc, hdrop]
    rfl

theorem leadingDigits_iff :
    LeadingDigits text digits ↔ digits ≠ [] ∧ (spanDigits (unsigned text)).1 = digits := by
  constructor
  · rintro ⟨blanks, sign, rest, hblanks, hsign, ⟨hne, hd⟩, hrest, rfl⟩
    cases digits with
    | nil => exact absurd rfl hne
    | cons c more =>
      rw [List.append_assoc, List.cons_append,
        unsigned_append hblanks hsign (hd c List.mem_cons_self), ← List.cons_append,
        spanDigits_append hd hrest]
      exact ⟨hne, rfl⟩
  · rintro ⟨hne, rfl⟩
    obtain ⟨blanks, sign, hblanks, hsign, htext⟩ := exists_unsigned text
    refine ⟨blanks, sign, (spanDigits (unsigned text)).2, hblanks, hsign,
      ⟨hne, digits_spanDigits _⟩, ?_, ?_⟩
    · intro c hc
      have hstop := List.head?_dropWhile_not Char.isDigit (unsigned text)
      rwa [show ((unsigned text).dropWhile Char.isDigit).head? = some c from hc] at hstop
    · rw [List.append_assoc, ← append_spanDigits, ← htext]

theorem utf8Size_of_isDigit {c : Char} (hc : c.isDigit = true) : c.utf8Size = 1 := by
  have hle := ((isDigit_iff c).mp hc).2
  rw [Char.utf8Size_eq_one_iff, UInt32.le_iff_toNat_le]
  exact Nat.le_trans hle (by decide)

theorem Digits.utf8ByteSize (hd : Digits digits) :
    (String.ofList digits).utf8ByteSize = digits.length := by
  induction digits with
  | nil => rfl
  | cons c rest ih =>
    obtain ⟨hc, hrest⟩ := List.forall_mem_cons.mp hd
    have hfirst : String.ofList (c :: rest) = String.singleton c ++ String.ofList rest := by simp
    rw [hfirst, String.utf8ByteSize_append, String.utf8ByteSize_singleton, utf8Size_of_isDigit hc,
      ih hrest, List.length_cons, Nat.add_comm]

/-- A digit has one byte, so the digits end where they have as many bytes as there are of them. -/
theorem isValid_spanDigits (text : List Char) :
    (String.Pos.Raw.mk (spanDigits text).1.length).IsValid (String.ofList text) := by
  rw [String.Pos.Raw.isValid_iff_exists_append]
  refine ⟨String.ofList (spanDigits text).1, String.ofList (spanDigits text).2, ?_, ?_⟩
  · rw [← String.ofList_append, ← append_spanDigits]
  · exact String.Pos.Raw.ext (digits_spanDigits text).utf8ByteSize.symm

end Text

namespace Exchange

variable {s : String} {n : Nat}

theorem leadingNumber?_eq (s : String) : leadingNumber? s =
    if (Text.spanDigits (Text.unsigned s.toList)).1 = [] ∨
        UInt64.size ≤ Text.numeral (Text.spanDigits (Text.unsigned s.toList)).1 then none
    else some (Text.numeral (Text.spanDigits (Text.unsigned s.toList)).1) := by
  by_cases hplus : ∃ rest, Text.dropBlank s.toList = '+' :: rest
  · obtain ⟨rest, hrest⟩ := hplus
    rw [leadingNumber?, Text.unsigned_of_plus hrest, hrest]
    rfl
  · rw [not_exists] at hplus
    rw [Text.unsigned_of_ne hplus, leadingNumber?]
    split
    case h_1 rest hrest => exact absurd hrest (hplus rest)
    case h_2 => rfl

theorem leadingNumber?_eq_some_iff : leadingNumber? s = some n ↔
    n < UInt64.size ∧ ∃ digits, Text.LeadingDigits s.toList digits ∧ Text.numeral digits = n := by
  rw [leadingNumber?_eq, Option.ite_none_left_eq_some, not_or, Nat.not_le, Option.some.injEq]
  simp only [Text.leadingDigits_iff]
  constructor
  · rintro ⟨⟨hne, hlt⟩, rfl⟩
    exact ⟨hlt, _, ⟨hne, rfl⟩, rfl⟩
  · rintro ⟨hlt, _, ⟨hne, rfl⟩, rfl⟩
    exact ⟨⟨hne, hlt⟩, rfl⟩

theorem maxLength?_string_eq_some_iff : (maxLength? (.string s)).map UInt64.toNat = some n ↔
    0 < n ∧ leadingNumber? s = some n := by
  constructor
  · intro h
    obtain ⟨length, hlength, rfl⟩ := Option.map_eq_some_iff.mp h
    obtain ⟨m, hm, rfl⟩ := Option.map_eq_some_iff.mp hlength
    obtain ⟨hread, hpos⟩ := Option.filter_eq_some_iff.mp hm
    rw [UInt64.toNat_ofNat_of_lt' (leadingNumber?_lt hread)]
    exact ⟨of_decide_eq_true hpos, hread⟩
  · rintro ⟨hpos, hread⟩
    rw [maxLength?_string hread hpos, Option.map_some,
      UInt64.toNat_ofNat_of_lt' (leadingNumber?_lt hread)]

/-- A text sets the length that it begins with, if that is from one to the greatest number of 64
bits, and no length otherwise. The digits can be cut off whatever follows them, and the lengths that
are written as texts are read back. -/
theorem maxLength?_of_leadingDigits (s : String) (n : Nat) (f : Field) (position : Nat) :
    ((maxLength? (.string s)).map UInt64.toNat = some n ↔
      1 ≤ n ∧ n ≤ 18446744073709551615 ∧
        ∃ digits, Text.LeadingDigits s.toList digits ∧ Text.numeral digits = n) ∧
    maxLength? (.string s) ≠ some 0 ∧
    (String.Pos.Raw.mk (Text.spanDigits (Text.unsigned s.toList)).1.length).IsValid
      (String.ofList (Text.unsigned s.toList)) ∧
    ((maxLength? (.string (toString n))).map UInt64.toNat = some n ↔
      1 ≤ n ∧ n ≤ 18446744073709551615) ∧
    maxLength? (f.toEntry position).spec.maxLength = setLength f.maxLength := by
  have hsize : n ≤ 18446744073709551615 ↔ n < UInt64.size := Nat.lt_succ_iff.symm
  refine ⟨?_, maxLength?_ne_zero _, Text.isValid_spanDigits _, ?_, maxLength?_written f.maxLength⟩
  · rw [maxLength?_string_eq_some_iff, leadingNumber?_eq_some_iff, hsize]
    rfl
  · rw [maxLength?_string_eq_some_iff, hsize]
    constructor
    · rintro ⟨hpos, hread⟩
      exact ⟨hpos, leadingNumber?_lt hread⟩
    · rintro ⟨hpos, hlt⟩
      exact ⟨hpos, leadingNumber?_toString hlt⟩

/-- A digit of another script ends the number as any other character does. -/
example : maxLength? (.string "\u3000+012\u0663") = some 12 := by decide

end Exchange

end FormCompiler
