import FormCompiler.Component.Control
import FormCompiler.Proofs.FormFilling

/-! What a generated form holds at first, checked against its own rules. A field that asks for nothing
mostly takes its first value. A password never does, and a required number does if its least value is
not too great. -/

namespace FormCompiler

/-- What stands in the values for a default; nothing stands for an undefined one. -/
def DefaultValue.json? : DefaultValue → Option Json
  | no => some (.bool false)
  | emptyList => some (.array [])
  | emptyText => some (.string "")
  | undefined => none
  | number x => some (.ofBinary64 x)

namespace Field

/-- The values of a form with this field alone before anything is entered. -/
def initialValues (f : Field) : Json :=
  .object (f.defaultValue.json?.toList.map fun v => (f.name, v))

/-- What a field has to say to be content with its first value. -/
def TakesInitial (f : Field) : Prop :=
  match f.kind with
  | .checkbox | .checkboxGroup | .file | .date | .select | .radio => f.required = false
  | .text | .textarea =>
    f.required = false ∧ (f.minLength = none ∨ f.minLength = some 0) ∧
      f.valueType ≠ some .number ∧ f.valueType ≠ some .alphanumeric
  | .number => f.required = false ∨ f.max = none ∨
      ∃ bound, f.max = some bound ∧ f.min.getD .zero ≤ bound
  | .password => False

variable {f : Field}

theorem contentFits_empty_iff :
    f.ContentFits "" ↔ f.valueType ≠ some .number ∧ f.valueType ≠ some .alphanumeric := by
  simp [ContentFits]

theorem lengthFits_empty_iff : f.LengthFits "" ↔ f.minLength = none ∨ f.minLength = some 0 := by
  have hlength : Text.length16 "" = 0 := by decide
  simp only [LengthFits, hlength, Nat.zero_le, implies_true, and_true, Nat.le_zero]
  cases f.minLength with
  | none => simp
  | some n =>
    have hzero : n = 0 ↔ n.toNat = 0 := UInt64.toNat_inj.symm
    simp only [Option.some.injEq, forall_eq', reduceCtorEq, false_or, hzero,
      UInt64.lt_iff_toNat_lt, UInt64.toNat_zero]
    omega

theorem admits_emptyString_iff (hk : f.kind.isTextLike = true) :
    f.Admits (.string "") ↔ f.required = false ∧ (f.minLength = none ∨ f.minLength = some 0) ∧
      f.valueType ≠ some .number ∧ f.valueType ≠ some .alphanumeric := by
  have hlength : Text.length16 "" = 0 := by decide
  have hreq : (f.required = true → 1 ≤ Text.length16 "") ↔ f.required = false := by
    simp [hlength]
  have hadmits : f.Admits (.string "") ↔
      f.ContentFits "" ∧ f.LengthFits "" ∧ f.required = false := by
    rw [← hreq]
    cases hkind : f.kind <;> simp [hkind, FieldKind.isTextLike] at hk <;> simp [Admits, hkind]
  rw [hadmits, contentFits_empty_iff, lengthFits_empty_iff]
  constructor
  · rintro ⟨hcontent, hlengths, hneeded⟩
    exact ⟨hneeded, hlengths, hcontent⟩
  · rintro ⟨hneeded, hlengths, hcontent⟩
    exact ⟨hcontent, hlengths, hneeded⟩

theorem not_admits_emptyString (hk : f.kind = .password) : ¬ f.Admits (.string "") := by
  have hlength : Text.length16 "" = 0 := by decide
  simp [Admits, hk, hlength]

theorem admits_least_iff (hk : f.kind = .number) (hf : f.FiniteNumbers) :
    f.Admits (.number (.float (f.min.getD .zero))) ↔
      f.max = none ∨ ∃ bound, f.max = some bound ∧ f.min.getD .zero ≤ bound := by
  have hleast := Binary64.le_refl (Binary64.isNaN_of_isFinite hf.least)
  simp only [Admits, hk, coerceNumber_float hf.least, Option.some.injEq, exists_eq_left', hleast,
    implies_true, true_and]
  cases f.max <;> simp

theorem presentValue_initialValues (hf : f.FiniteNumbers) :
    presentValue f.initialValues f.name = f.defaultValue.json? := by
  have hnull : f.defaultValue.json? ≠ some .null := by
    cases hk : f.kind <;> cases hr : f.required <;>
      simp [defaultValue, DefaultValue.json?, Json.ofBinary64, hf.least, hk, hr]
  cases hd : f.defaultValue.json? with
  | none =>
    have hlookup : f.initialValues.member? f.name = none := by
      simp [initialValues, hd, Json.member?]
    exact presentValue_eq_none_iff.mpr (Or.inl hlookup)
  | some v =>
    have hlookup : f.initialValues.member? f.name = some v := by
      simp [initialValues, hd, Json.member?]
    exact presentValue_eq_some_iff.mpr ⟨hlookup, fun he => hnull (by rw [hd, he])⟩

theorem isMetBy_initialValues_iff (hf : f.FiniteNumbers) :
    f.IsMetBy f.initialValues ↔ f.TakesInitial := by
  have hp := presentValue_initialValues hf
  cases hk : f.kind with
  | text | textarea =>
    simp only [defaultValue, hk, DefaultValue.json?] at hp
    rw [isMetBy_of_present hp, admits_emptyString_iff (by simp [hk, FieldKind.isTextLike])]
    simp only [TakesInitial, hk]
  | password =>
    simp only [defaultValue, hk, DefaultValue.json?] at hp
    rw [isMetBy_of_present hp]
    simp [TakesInitial, hk, not_admits_emptyString hk]
  | date | select | radio | checkbox | checkboxGroup =>
    simp only [defaultValue, hk, DefaultValue.json?] at hp
    rw [isMetBy_of_present hp]
    simp [Admits, TakesInitial, hk]
  | file =>
    simp only [defaultValue, hk, DefaultValue.json?] at hp
    rw [isMetBy_of_absent hp]
    simp [MayBeAbsent, TakesInitial, hk]
  | number =>
    cases hr : f.required with
    | false =>
      simp only [defaultValue, hk, hr, DefaultValue.json?, Bool.false_eq_true, if_false] at hp
      rw [isMetBy_of_absent hp]
      simp [MayBeAbsent, TakesInitial, hk, hr]
    | true =>
      have hwritten : Json.ofBinary64 (f.min.getD .zero) =
          .number (.float (f.min.getD .zero)) := if_pos hf.least
      simp only [defaultValue, hk, hr, if_true, DefaultValue.json?, hwritten] at hp
      rw [isMetBy_of_present hp, admits_least_iff hk hf]
      simp [TakesInitial, hk, hr]

/-- The first value of a field, checked by the rule of the field, is neither an error nor missing
exactly when the field takes it. -/
theorem initialValues_clear_iff (hf : f.FiniteNumbers) :
    (f.schema.validate f.initialValues).errors = [] ∧
      (f.schema.validate f.initialValues).missingRequired = [] ↔ f.TakesInitial := by
  have hform : ∀ g ∈ [f], g.FiniteNumbers := List.forall_mem_singleton.mpr hf
  have hclear := @Form.forall_isMetBy_iff { fields := [f] } hform f.initialValues
  rw [List.forall_mem_singleton, isMetBy_initialValues_iff hf] at hclear
  exact hclear.symm

/-- A number from one to two is one at first. -/
theorem initialValues_clear_iff_least :
    let f : Field :=
      { id := "element-1", kind := .number, label := "Guests", name := "guests", required := true
        min := some .one, max := some ⟨0x4000000000000000⟩ }
    f.FiniteNumbers ∧ f.initialValues = .object [("guests", .number (.float .one))] ∧
      (f.schema.validate f.initialValues).errors = [] ∧
      (f.schema.validate f.initialValues).missingRequired = [] := by
  intro f
  have hf : f.FiniteNumbers := ⟨by simp [f]; decide, by simp [f]; decide, by simp [f]⟩
  have hle : (Binary64.one : Binary64) ≤ ⟨0x4000000000000000⟩ :=
    Binary64.le_iff.mpr ⟨by decide, by decide, by decide⟩
  exact ⟨hf, by decide, (initialValues_clear_iff hf).mpr (Or.inr (Or.inr ⟨_, rfl, hle⟩))⟩

end Field

end FormCompiler
