import FormCompiler.Component.SchemaExpr
import FormCompiler.Proofs.Numeral
import FormCompiler.Proofs.RuleChecks

/-! Patterns in the preview and in the generated code. The generated code has a pattern as a regular
expression literal, read by an engine with character classes of its own, which looks at UTF-16 units
rather than characters. The two readings part at few characters, and these are found here. -/

namespace FormCompiler

/-! ## Literals of the generated code -/

namespace RegExp

def codeUnits (c : Char) : List Nat :=
  if c.toNat < 0x10000 then [c.toNat]
  else [0xd800 + (c.toNat - 0x10000) / 0x400, 0xdc00 + (c.toNat - 0x10000) % 0x400]

/-- First and last units of the runs that count as white space or line ends. -/
def blankRuns : List (Nat × Nat) :=
  [(0x9, 0xd), (0x20, 0x20), (0xa0, 0xa0), (0x1680, 0x1680), (0x2000, 0x200a), (0x2028, 0x2029),
    (0x202f, 0x202f), (0x205f, 0x205f), (0x3000, 0x3000), (0xfeff, 0xfeff)]

def isBlank (u : Nat) : Bool := blankRuns.any fun (first, last) => first ≤ u && u ≤ last

def holds (u : Nat) : ClassItem → Bool
  | .digit => 0x30 ≤ u && u ≤ 0x39
  | .blank => isBlank u
  | .range first last => first.toNat ≤ u && u ≤ last.toNat

/-- The items of a bracketed class, and what follows the bracket. -/
def classItems? : List Char → Option (List ClassItem × List Char)
  | ']' :: rest => some ([], rest)
  | '\\' :: 'd' :: rest => (classItems? rest).map fun (items, rest) => (.digit :: items, rest)
  | '\\' :: 's' :: rest => (classItems? rest).map fun (items, rest) => (.blank :: items, rest)
  | first :: '-' :: last :: rest =>
    (classItems? rest).map fun (items, rest) => (.range first last :: items, rest)
  | _ => none

def atom? : List Char → Option (List ClassItem × List Char)
  | '[' :: rest => classItems? rest
  | '\\' :: 'd' :: rest => some ([.digit], rest)
  | '\\' :: 's' :: rest => some ([.blank], rest)
  | _ => none

/-- The class of a literal without flags that is anchored at both ends and repeats one class. -/
def ofLiteral? (literal : String) : Option (List ClassItem) :=
  match literal.toList with
  | '/' :: '^' :: rest =>
    match atom? rest with
    | some (items, ['+', '$', '/']) => some items
    | _ => none
  | _ => none

/-- Whether the units of a text from its start to its end, at least one, are in the class. -/
def accepts (literal s : String) : Bool :=
  match ofLiteral? literal with
  | some items =>
    let units := s.toList.flatMap codeUnits
    !units.isEmpty && units.all fun u => items.any (holds u)
  | none => false

theorem codeUnits_ne_nil (c : Char) : codeUnits c ≠ [] := by
  unfold codeUnits
  split <;> simp

/-- A class without surrogates reads a character by its code point, and none beyond the first
plane. -/
theorem all_codeUnits {inClass : Nat → Bool}
    (hsurrogate : ∀ u, 0xd800 ≤ u → u < 0xe000 → inClass u = false)
    (hplane : ∀ u, 0x10000 ≤ u → inClass u = false) (c : Char) :
    (codeUnits c).all inClass = inClass c.toNat := by
  by_cases hc : c.toNat < 0x10000
  · simp [codeUnits, hc]
  · have hvalid : c.toNat < 0x110000 := by
      have h := c.valid
      simp only [UInt32.isValidChar, Nat.isValidChar] at h
      change c.val.toNat < 0x110000
      omega
    have hlead : inClass (0xd800 + (c.toNat - 0x10000) / 0x400) = false :=
      hsurrogate _ (by omega) (by omega)
    simp [codeUnits, hc, hlead, hplane c.toNat (by omega)]

end RegExp

theorem Text.isDecimalDigit_of_isDigit {c : Char} (h : c.isDigit = true) :
    isDecimalDigit c = true := by
  have hc := (isDigit_iff c).mp h
  refine List.any_eq_true.mpr ⟨0x30, by simp [digitZeros], ?_⟩
  simp only [Bool.and_eq_true, decide_eq_true_eq]
  omega

theorem Text.isBlank_iff_regExp (c : Char) :
    isBlank c = true ↔ (RegExp.isBlank c.toNat = true ∧ c.toNat ≠ 0xfeff) ∨ c.toNat = 0x85 := by
  simp only [isBlank, blankRuns, RegExp.isBlank, RegExp.blankRuns, List.any_cons, List.any_nil,
    Bool.or_eq_true, Bool.and_eq_true, decide_eq_true_eq, Bool.false_eq_true, or_false]
  omega

namespace Pattern

def literal (p : Pattern) : String := "/" ++ p.source ++ "/"

theorem ofLiteral?_literal (p : Pattern) : RegExp.ofLiteral? p.literal = some p.items := by
  cases p <;> decide

theorem passes_iff (p : Pattern) (s : String) :
    (Check.pattern p).Passes (.text s) ↔
      s ≠ "" ∧ ∀ c ∈ s.toList, p.items.any (ClassItem.holds .unicode c) = true := by
  simp [accepts]

theorem literal_accepts_iff (p : Pattern) (s : String) :
    RegExp.accepts p.literal s = true ↔
      s ≠ "" ∧ ∀ c ∈ s.toList, p.items.any (RegExp.holds c.toNat) = true := by
  have hsurrogate (u : Nat) (hlow : 0xd800 ≤ u) (hhigh : u < 0xe000) :
      p.items.any (RegExp.holds u) = false := by
    cases p <;> simp [items, RegExp.holds, RegExp.isBlank, RegExp.blankRuns] <;> omega
  have hplane (u : Nat) (hlow : 0x10000 ≤ u) : p.items.any (RegExp.holds u) = false := by
    cases p <;> simp [items, RegExp.holds, RegExp.isBlank, RegExp.blankRuns] <;> omega
  have hempty : (s.toList.flatMap RegExp.codeUnits).isEmpty = true ↔ s = "" := by
    rw [List.isEmpty_iff, List.flatMap_eq_nil_iff, ← String.toList_eq_nil_iff]
    constructor
    · intro h
      rw [List.eq_nil_iff_forall_not_mem]
      exact fun c hc => RegExp.codeUnits_ne_nil c (h c hc)
    · intro h
      simp [h]
  have hnonempty : (!(s.toList.flatMap RegExp.codeUnits).isEmpty) = true ↔ s ≠ "" := by
    rw [Bool.not_eq_true', ← Bool.not_eq_true, hempty]
  simp only [RegExp.accepts, ofLiteral?_literal, Bool.and_eq_true, hnonempty, List.all_flatMap,
    RegExp.all_codeUnits hsurrogate hplane, List.all_eq_true]

/-- The characters that the two readings of a pattern do not agree on. -/
def Disputes (p : Pattern) (c : Char) : Prop :=
  match p with
  | digitsOnly => Text.isDecimalDigit c = true ∧ c.isDigit = false
  | alphanumeric => c = '\u0085' ∨ c = '\ufeff'

theorem disputes_digitsOnly_iff (c : Char) :
    digitsOnly.Disputes c ↔ ¬ (digitsOnly.items.any (ClassItem.holds .unicode c) = true ↔
      digitsOnly.items.any (RegExp.holds c.toNat) = true) := by
  have hunicode : digitsOnly.items.any (ClassItem.holds .unicode c) = true ↔
      Text.isDecimalDigit c = true := by
    simp [items, ClassItem.holds, EscapeReading.unicode]
  have hliteral : digitsOnly.items.any (RegExp.holds c.toNat) = true ↔ c.isDigit = true := by
    simp [items, RegExp.holds, Text.isDigit_iff]
  rw [hunicode, hliteral, Disputes]
  have hdigit := Text.isDecimalDigit_of_isDigit (c := c)
  cases hc : c.isDigit <;> simp_all

def IsLetterOrDigit (u : Nat) : Prop :=
  0x61 ≤ u ∧ u ≤ 0x7a ∨ 0x41 ≤ u ∧ u ≤ 0x5a ∨ 0x30 ≤ u ∧ u ≤ 0x39

theorem disputes_alphanumeric_iff (c : Char) :
    alphanumeric.Disputes c ↔ ¬ (alphanumeric.items.any (ClassItem.holds .unicode c) = true ↔
      alphanumeric.items.any (RegExp.holds c.toNat) = true) := by
  have hdisputed : alphanumeric.Disputes c ↔ c.toNat = 0x85 ∨ c.toNat = 0xfeff :=
    or_congr Char.toNat_inj.symm Char.toNat_inj.symm
  have hle (a b : Char) : a ≤ b ↔ a.toNat ≤ b.toNat := UInt32.le_iff_toNat_le
  have hunicode : alphanumeric.items.any (ClassItem.holds .unicode c) = true ↔
      IsLetterOrDigit c.toNat ∨ Text.isBlank c = true := by
    simp [items, ClassItem.holds, EscapeReading.unicode, IsLetterOrDigit, hle, or_assoc]
  have hliteral : alphanumeric.items.any (RegExp.holds c.toNat) = true ↔
      IsLetterOrDigit c.toNat ∨ RegExp.isBlank c.toNat = true := by
    simp [items, RegExp.holds, IsLetterOrDigit, or_assoc]
  rw [hdisputed, hunicode, hliteral, Text.isBlank_iff_regExp]
  generalize c.toNat = u
  by_cases hnext : u = 0x85
  · have hblank : RegExp.isBlank 0x85 = false := by decide
    simp [hnext, IsLetterOrDigit, hblank]
  · by_cases hmark : u = 0xfeff
    · have hblank : RegExp.isBlank 0xfeff = true := by decide
      simp [hmark, IsLetterOrDigit, hblank]
    · simp [hnext, hmark]

theorem disputes_iff (p : Pattern) (c : Char) :
    p.Disputes c ↔ ¬ (p.items.any (ClassItem.holds .unicode c) = true ↔
      p.items.any (RegExp.holds c.toNat) = true) := by
  cases p with
  | digitsOnly => exact disputes_digitsOnly_iff c
  | alphanumeric => exact disputes_alphanumeric_iff c

/-- The preview and the generated code agree on a text unless one of them accepts it and a disputed
character is in it. -/
theorem literal_agrees_iff (p : Pattern) (s : String) :
    (Check.pattern p).call = ("regex", [p.literal]) ∧
      (((Check.pattern p).Passes (.text s) ↔ RegExp.accepts p.literal s = true) ↔
        ¬ (((Check.pattern p).Passes (.text s) ∨ RegExp.accepts p.literal s = true) ∧
          ∃ c ∈ s.toList, p.Disputes c)) := by
  have hpreview := p.passes_iff s
  have hliteral := p.literal_accepts_iff s
  refine ⟨rfl, ?_⟩
  constructor
  · rintro hagree ⟨haccepted, c, hc, hdispute⟩
    have hpasses : (Check.pattern p).Passes (.text s) := haccepted.elim id hagree.mpr
    have hread := (hpreview.mp hpasses).2 c hc
    have hprinted := (hliteral.mp (hagree.mp hpasses)).2 c hc
    exact (p.disputes_iff c).mp hdispute (iff_of_true hread hprinted)
  · intro hnone
    have hsame (haccepted : (Check.pattern p).Passes (.text s) ∨
        RegExp.accepts p.literal s = true) {c : Char} (hc : c ∈ s.toList) :
        p.items.any (ClassItem.holds .unicode c) = true ↔
          p.items.any (RegExp.holds c.toNat) = true := by
      apply Classical.not_not.mp
      rw [← p.disputes_iff c]
      exact fun hdispute => hnone ⟨haccepted, c, hc, hdispute⟩
    constructor
    · intro h
      obtain ⟨hne, hall⟩ := hpreview.mp h
      exact hliteral.mpr ⟨hne, fun c hc => (hsame (Or.inl h) hc).mp (hall c hc)⟩
    · intro h
      obtain ⟨hne, hall⟩ := hliteral.mp h
      exact hpreview.mpr ⟨hne, fun c hc => (hsame (Or.inr h) hc).mpr (hall c hc)⟩

/-- A digit of another script, and the two characters that only one of the readings counts as
white space. -/
theorem literal_disagrees :
    (Check.pattern digitsOnly).Passes (.text "\u0663") ∧
      RegExp.accepts digitsOnly.literal "\u0663" = false ∧
      (Check.pattern alphanumeric).Passes (.text "\u0085") ∧
      RegExp.accepts alphanumeric.literal "\u0085" = false ∧
      ¬ (Check.pattern alphanumeric).Passes (.text "\ufeff") ∧
      RegExp.accepts alphanumeric.literal "\ufeff" = true := by
  simp only [Check.passes_pattern_text]
  decide

end Pattern

end FormCompiler
