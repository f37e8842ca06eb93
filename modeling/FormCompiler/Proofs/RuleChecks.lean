import FormCompiler.Validation

/-! When a value passes the checks of a rule, check by check, and when a rule accepts it. The rules
of texts, which several kinds of fields share, have a name of their own. -/

namespace FormCompiler

/-- A value of the shape of a rule that a check has nothing against. -/
def Check.Passes (c : Check) (v : Typed) : Prop := c.refusal? v = none

namespace Check

attribute [local simp] Passes refusal?

@[simp]
theorem passes_minLength_text {n : UInt64} {s : String} :
    (minLength n).Passes (.text s) ↔ n.toNat ≤ Text.length16 s := by
  simp

@[simp]
theorem passes_minLength_list {n : UInt64} {length : Nat} :
    (minLength n).Passes (.list length) ↔ n.toNat ≤ length := by
  simp

@[simp]
theorem passes_maxLength_text {n : UInt64} {s : String} :
    (maxLength n).Passes (.text s) ↔ Text.length16 s ≤ n.toNat := by
  simp

@[simp]
theorem passes_min_number {bound x : Binary64} :
    (min bound).Passes (.number x) ↔ ¬ x < bound := by
  simp

@[simp]
theorem passes_max_number {bound x : Binary64} :
    (max bound).Passes (.number x) ↔ ¬ bound < x := by
  simp

@[simp]
theorem passes_pattern_text {p : Pattern} {s : String} :
    (pattern p).Passes (.text s) ↔ p.accepts .unicode s = true := by
  cases h : p.accepts .unicode s <;> simp [h]

@[simp]
theorem passes_mustBeTrue_flag {b : Bool} : mustBeTrue.Passes (.flag b) ↔ b = true := by
  cases b <;> simp

@[simp]
theorem passes_optional (v : Typed) : optional.Passes v := by
  cases v <;> rfl

end Check

theorem Constraint.refusal?_eq_none_iff (c : Constraint) (v : Typed) :
    c.refusal? v = none ↔ c.check.Passes v := by
  simp [Constraint.refusal?, Check.Passes]

/-- A rule accepts what has its shape and passes all its checks. -/
theorem Rule.refusal?_eq_none_iff (r : Rule) (v : Json) :
    r.refusal? v = none ↔
      ∃ typed, r.base.coerce v = some typed ∧ ∀ c ∈ r.constraints, c.check.Passes typed := by
  rw [Rule.refusal?]
  cases r.base.coerce v with
  | none => simp
  | some typed => simp [List.findSome?_eq_none_iff, Constraint.refusal?_eq_none_iff]

/-- The same where it is known what the values of the shape look like. -/
theorem Rule.accepts_iff_of_coerce {α : Type} {r : Rule} {v : Json} {looks : α → Prop}
    {make : α → Typed}
    (hcoerce : ∀ typed, r.base.coerce v = some typed ↔ ∃ a, looks a ∧ make a = typed) :
    r.refusal? v = none ↔ ∃ a, looks a ∧ ∀ c ∈ r.constraints, c.check.Passes (make a) := by
  rw [Rule.refusal?_eq_none_iff]
  constructor
  · rintro ⟨typed, htyped, hpass⟩
    obtain ⟨a, ha, rfl⟩ := (hcoerce typed).mp htyped
    exact ⟨a, ha, hpass⟩
  · rintro ⟨a, ha, hpass⟩
    exact ⟨make a, (hcoerce _).mpr ⟨a, ha, rfl⟩, hpass⟩

namespace BaseType

variable {v : Json} {typed : Typed}

attribute [local simp] coerce

theorem coerce_string_iff :
    string.coerce v = some typed ↔ ∃ s, v = .string s ∧ .text s = typed := by
  cases v <;> simp

theorem coerce_number_iff :
    number.coerce v = some typed ↔ ∃ x, coerceNumber v = some x ∧ .number x = typed := by
  have h : number.coerce v = (coerceNumber v).map .number := by cases v <;> rfl
  rw [h, Option.map_eq_some_iff]

theorem coerce_boolean_iff :
    boolean.coerce v = some typed ↔ ∃ b, v = .bool b ∧ .flag b = typed := by
  cases v <;> simp

theorem coerce_stringArray_iff :
    stringArray.coerce v = some typed ↔
      ∃ items, (v = .array items ∧ ∀ item ∈ items, ∃ s, item = .string s) ∧
        .list items.length = typed := by
  have hstring (item : Json) : item.isString = true ↔ ∃ s, item = .string s := by
    cases item <;> simp [Json.isString]
  cases v <;> simp [hstring, and_assoc]

theorem coerce_binary_iff :
    binary.coerce v = some typed ↔
      ∃ name, v.member? "name" = some (.string name) ∧ .binary = typed := by
  have hstring (item : Option Json) : item.any Json.isString = true ↔
      ∃ name, item = some (.string name) := by
    cases item with
    | none => simp
    | some item => cases item <;> simp [Json.isString]
  cases v <;> simp [Json.member?, hstring]

end BaseType

theorem coerceNumber_isNaN {v : Json} {x : Binary64} (h : coerceNumber v = some x) :
    x.isNaN = false := by
  simpa using (Option.filter_eq_some_iff.mp h).2

theorem coerceNumber_float {x : Binary64} (h : x.isFinite = true) :
    coerceNumber (.number (.float x)) = some x := by
  simp [coerceNumber, Number.toBinary64, Binary64.isNaN_of_isFinite h]

namespace Pattern

theorem accepts_digitsOnly_iff (s : String) :
    digitsOnly.accepts .unicode s = true ↔
      s ≠ "" ∧ ∀ c ∈ s.toList, Text.isDecimalDigit c = true := by
  simp [accepts, items, ClassItem.holds, EscapeReading.unicode]

theorem accepts_alphanumeric_iff (s : String) :
    alphanumeric.accepts .unicode s = true ↔
      s ≠ "" ∧ ∀ c ∈ s.toList, c.isAlphanum = true ∨ Text.isBlank c = true := by
  have hitems (c : Char) : alphanumeric.items.any (ClassItem.holds .unicode c) =
      (c.isAlphanum || Text.isBlank c) := by
    have hlower : decide ('a' ≤ c ∧ c ≤ 'z') = c.isLower := Bool.decide_and ..
    have hupper : decide ('A' ≤ c ∧ c ≤ 'Z') = c.isUpper := rfl
    have hdigit : decide ('0' ≤ c ∧ c ≤ '9') = c.isDigit := Bool.decide_and ..
    have halnum : c.isAlphanum = (c.isUpper || c.isLower || c.isDigit) := rfl
    simp only [items, ClassItem.holds, EscapeReading.unicode, hlower, hupper, hdigit, halnum,
      List.any_cons, List.any_nil, Bool.or_false]
    ac_rfl
  simp [accepts, hitems]

end Pattern

namespace Constraint

variable {v : Typed}

theorem passes_presence_iff (required : Bool) (check : Check) :
    (presence required check).check.Passes v ↔ (required = true → check.Passes v) := by
  cases required <;> simp [presence, optional]

theorem passes_lengths_iff (min max : Option UInt64) (s : String) :
    (∀ c ∈ lengths min max, c.check.Passes (.text s)) ↔
      (∀ n ∈ min, n.toNat ≤ Text.length16 s) ∧ ∀ n ∈ max, Text.length16 s ≤ n.toNat := by
  cases min <;> cases max <;> simp [lengths, atLeast, atMost]

theorem lengths_ne_optional (min max : Option UInt64) :
    ∀ c ∈ lengths min max, c.check ≠ .optional := by
  cases min <;> cases max <;> simp [lengths, atLeast, atMost]

end Constraint

theorem setLength_eq_some_iff {length : Option UInt64} {n : UInt64} :
    setLength length = some n ↔ length = some n ∧ 0 < n := by
  simp [setLength, Option.filter_eq_some_iff]

open Constraint in
/-- The rule of texts of a pattern and between two lengths. -/
def textRule (pattern : Option Pattern) (min max : Option UInt64) (required : Bool) : Rule where
  base := .string
  constraints :=
    pattern.toList.map matching ++ lengths min max ++ [presence required (.minLength 1)]

theorem Field.rule_of_isTextLike {f : Field} (h : f.kind.isTextLike = true) :
    f.rule = textRule (f.valueType.bind ValueType.pattern?) (setLength f.minLength)
      (setLength f.maxLength) f.required := by
  cases hk : f.kind <;> simp [hk, FieldKind.isTextLike] at h <;> simp only [rule, hk] <;> rfl

end FormCompiler
