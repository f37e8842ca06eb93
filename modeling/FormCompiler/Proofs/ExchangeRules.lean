import FormCompiler.Proofs.ExchangeProjection
import FormCompiler.Proofs.RuleChecks

/-! Which fields keep their rule when a form is written as an exchange document and read back. The
document carries no least length, no bounds and few kinds, and a date without a time comes back as
a text, so a rule survives only where it says nothing of these. -/

namespace FormCompiler

open Exchange

/-- A length that sets nothing. -/
def Unset (length : Option UInt64) : Prop := length = none ∨ length = some 0

theorem setLength_eq_none_iff {length : Option UInt64} :
    setLength length = none ↔ Unset length := by
  by_cases hz : length = some 0 <;> simp [setLength_eq_ite, Unset, hz]

theorem setLength_setLength (length : Option UInt64) :
    setLength (setLength length) = setLength length := by
  simp [setLength, Option.filter_filter]

section TextRule

variable {pattern : Option Pattern} {min max : Option UInt64} {required : Bool}

theorem textRule_without_min_iff :
    textRule pattern none max required = textRule pattern min max required ↔ min = none := by
  simp [textRule, Constraint.lengths]

theorem textRule_without_pattern_iff :
    textRule none none max required = textRule pattern min max required ↔
      pattern = none ∧ min = none := by
  simp only [textRule, Constraint.lengths, Option.toList_none, List.map_nil, List.nil_append,
    List.append_assoc, Rule.mk.injEq, true_and]
  rw [← List.append_assoc, List.self_eq_append_left]
  simp

theorem textRule_without_max_iff :
    textRule none none max required = textRule none none none required ↔ max = none := by
  simp [textRule, Constraint.lengths]

/-- The first check of a password is one that no rule of a text without a least length has. -/
theorem textRule_ne_password {f : Field} (hk : f.kind = .password) :
    textRule none none max required ≠ f.rule := by
  cases max <;> cases required <;>
    simp [textRule, Field.rule, hk, Constraint.lengths, Constraint.passwordSize,
      Constraint.presence, Constraint.atMost, Constraint.optional]

end TextRule

namespace Field

/-- What a field must not say for its rule to survive the exchange. -/
def KeepsRule (f : Field) : Prop :=
  match f.kind with
  | .select | .radio | .checkboxGroup => True
  | .text => Unset f.minLength
  | .textarea =>
    Unset f.minLength ∧ f.valueType ≠ some .number ∧ f.valueType ≠ some .alphanumeric
  | .date => f.valueType = some .datetime ∨ Unset f.maxLength
  | .checkbox | .file | .password | .number => False

theorem carriedValueType_pattern? (f : Field) :
    f.carriedValueType.bind ValueType.pattern? =
      if f.kind = .text then f.valueType.bind ValueType.pattern? else none := by
  cases hk : f.kind <;> cases hv : f.valueType with
  | none => simp [carriedValueType, hk, hv, ValueType.pattern?]
  | some t => cases t <;> simp [carriedValueType, hk, hv, ValueType.pattern?]

theorem carried_rule_of_text {f : Field} (h : f.carriedKind = .text) (position : Nat) :
    (f.carried position).rule =
      textRule (if f.kind = .text then f.valueType.bind ValueType.pattern? else none) none
        (setLength f.maxLength) f.required := by
  have hlike : (f.carried position).kind.isTextLike = true := by
    simp [carried, h, FieldKind.isTextLike]
  have hlength : setLength (f.carried position).maxLength = setLength f.maxLength := by
    simp [carried, ← setLength_eq_ite, setLength_setLength]
  rw [rule_of_isTextLike hlike, hlength, ← carriedValueType_pattern?]
  rfl

theorem pattern?_eq_none_iff (f : Field) :
    f.valueType.bind ValueType.pattern? = none ↔
      f.valueType ≠ some .number ∧ f.valueType ≠ some .alphanumeric := by
  cases hv : f.valueType with
  | none => simp
  | some t => cases t <;> simp [ValueType.pattern?]

theorem carried_date_rule_iff {f : Field} (hk : f.kind = .date) (position : Nat) :
    (f.carried position).rule = f.rule ↔ f.valueType = some .datetime ∨ Unset f.maxLength := by
  by_cases hd : f.valueType = some .datetime
  · simp [rule, carried, carriedKind, hk, hd]
  · have hrule : f.rule = textRule none none none f.required := by
      simp only [rule, hk]
      rfl
    rw [carried_rule_of_text (by simp [carriedKind, hk, hd]), if_neg (by simp [hk]), hrule,
      textRule_without_max_iff, setLength_eq_none_iff]
    simp [hd]

theorem carried_rule_eq_iff (f : Field) (position : Nat) :
    (f.carried position).rule = f.rule ↔ f.KeepsRule := by
  cases hk : f.kind with
  | text =>
    rw [carried_rule_of_text (by simp [carriedKind, hk]), if_pos hk,
      rule_of_isTextLike (by simp [hk, FieldKind.isTextLike]), textRule_without_min_iff,
      setLength_eq_none_iff]
    simp only [KeepsRule, hk]
  | textarea =>
    rw [carried_rule_of_text (by simp [carriedKind, hk]), if_neg (by simp [hk]),
      rule_of_isTextLike (by simp [hk, FieldKind.isTextLike]), textRule_without_pattern_iff,
      setLength_eq_none_iff, pattern?_eq_none_iff]
    simp only [KeepsRule, hk]
    exact and_comm
  | date =>
    rw [carried_date_rule_iff hk]
    simp only [KeepsRule, hk]
  | password =>
    rw [carried_rule_of_text (by simp [carriedKind, hk]), if_neg (by simp [hk])]
    simp [KeepsRule, hk, textRule_ne_password]
  | select | radio | checkboxGroup => simp [KeepsRule, rule, carried, carriedKind, hk]
  | checkbox | file | number =>
    have hbase : f.rule.base ≠ .string := by
      cases hr : f.required <;> simp [rule, hk, hr]
    rw [carried_rule_of_text (by simp [carriedKind, hk])]
    simp only [KeepsRule, hk, iff_false]
    exact fun h => hbase (congrArg Rule.base h).symm

end Field

/-- At every position of a form that is written and read back there is a field, and it has the rule
of the one that was written exactly when that one says nothing that the document leaves out. -/
theorem Form.exchanged_rule_iff {form : Form} {i : Nat} {f : Field}
    (hf : form.fields[i]? = some f) :
    ∃ g, form.toDocument.toImported.fields[i]? = some g ∧ (g.rule = f.rule ↔ f.KeepsRule) := by
  refine ⟨f.carried (i + 1), ?_, f.carried_rule_eq_iff (i + 1)⟩
  simp [carried_fields, hf]

/-- A date without a time keeps its rule although it comes back as a text. -/
theorem Form.exchanged_rule_iff_date :
    let f : Field :=
      { id := "element-2", kind := .date, label := "Day", name := "day", required := true
        maxLength := some 0 }
    let form : Form := { fields := [.withDefaults .number 1, f] }
    form.fields[1]? = some f ∧
    ∃ g, form.toDocument.toImported.fields[1]? = some g ∧ g.kind = .text ∧ g.rule = f.rule := by
  intro f form
  have hf : form.fields[1]? = some f := rfl
  obtain ⟨g, hg, hiff⟩ := exchanged_rule_iff hf
  have hkind : (form.toDocument.toImported.fields[1]?).map Field.kind = some .text := by decide
  refine ⟨hf, g, hg, ?_, hiff.mpr (Or.inr (Or.inr rfl))⟩
  rw [hg] at hkind
  exact Option.some.inj hkind

end FormCompiler
