import FormCompiler.Proofs.RuleChecks

/-! The preview means what the field says. What a field says of a value is stated kind by kind,
without rules, and the rule of the field accepts exactly such values. -/

namespace FormCompiler

theorem presentValue_eq_none_iff {values : Json} {name : String} : presentValue values name = none ↔
    values.member? name = none ∨ values.member? name = some .null := by
  rw [presentValue]
  cases values.member? name <;> simp

theorem presentValue_eq_some_iff {values v : Json} {name : String} :
    presentValue values name = some v ↔ values.member? name = some v ∧ v ≠ .null := by
  simp [presentValue, Option.filter_eq_some_iff]

namespace Field

/-- The numbers of a field are finite, as they are in all that is read from JSON. -/
structure FiniteNumbers (f : Field) : Prop where
  min : ∀ x ∈ f.min, x.isFinite = true
  max : ∀ x ∈ f.max, x.isFinite = true
  step : ∀ x ∈ f.step, x.isFinite = true

theorem FiniteNumbers.least {f : Field} (h : f.FiniteNumbers) :
    (f.min.getD .zero).isFinite = true := by
  cases hm : f.min with
  | none => decide
  | some bound => exact h.min bound hm

/-- Digits alone, or letters, digits and white space alone, where the field asks for them. -/
def ContentFits (f : Field) (s : String) : Prop :=
  (f.valueType = some .number → s ≠ "" ∧ ∀ c ∈ s.toList, Text.isDecimalDigit c = true) ∧
    (f.valueType = some .alphanumeric →
      s ≠ "" ∧ ∀ c ∈ s.toList, c.isAlphanum = true ∨ Text.isBlank c = true)

def LengthFits (f : Field) (s : String) : Prop :=
  (∀ n, f.minLength = some n → 0 < n → n.toNat ≤ Text.length16 s) ∧
    ∀ n, f.maxLength = some n → 0 < n → Text.length16 s ≤ n.toNat

/-- What a field says of a value that is there. -/
def Admits (f : Field) (v : Json) : Prop :=
  match f.kind with
  | .text | .textarea =>
    ∃ s, v = .string s ∧ f.ContentFits s ∧ f.LengthFits s ∧
      (f.required = true → 1 ≤ Text.length16 s)
  | .password => ∃ s, v = .string s ∧ 8 ≤ Text.length16 s ∧ f.LengthFits s
  | .date | .select | .radio => ∃ s, v = .string s ∧ (f.required = true → s ≠ "")
  | .number =>
    ∃ x, coerceNumber v = some x ∧ (f.required = true → f.min.getD .zero ≤ x) ∧
      ∀ bound, f.max = some bound → x ≤ bound
  | .checkbox => ∃ b, v = .bool b ∧ (f.required = true → b = true)
  | .checkboxGroup =>
    ∃ items, v = .array items ∧ (∀ item ∈ items, ∃ s, item = .string s) ∧
      (f.required = true → items ≠ [])
  | .file => ∃ name, v.member? "name" = some (.string name)

/-- Without a value these fields are content. -/
def MayBeAbsent (f : Field) : Prop :=
  f.required = false ∧ f.kind ≠ .checkbox ∧ f.kind ≠ .checkboxGroup

theorem passes_patterns_iff (f : Field) (s : String) :
    (∀ c ∈ (f.valueType.bind ValueType.pattern?).toList.map Constraint.matching,
      c.check.Passes (.text s)) ↔ f.ContentFits s := by
  cases hv : f.valueType with
  | none => simp [ContentFits, hv]
  | some t =>
    cases t <;> simp [ContentFits, hv, ValueType.pattern?, Constraint.matching,
      Pattern.accepts_digitsOnly_iff, Pattern.accepts_alphanumeric_iff]

theorem passes_lengths_iff (f : Field) (s : String) :
    (∀ c ∈ Constraint.lengths (setLength f.minLength) (setLength f.maxLength),
      c.check.Passes (.text s)) ↔ f.LengthFits s := by
  simp only [Constraint.passes_lengths_iff, Option.mem_def, setLength_eq_some_iff, LengthFits,
    and_imp]

theorem length16_pos_iff (s : String) : 1 ≤ Text.length16 s ↔ s ≠ "" := by
  have hunits (c : Char) : 1 ≤ Text.units c := by
    unfold Text.units
    split <;> omega
  rw [Text.length16, ne_eq, ← String.toList_eq_nil_iff]
  cases s.toList with
  | nil => simp [Text.unitCount]
  | cons c rest =>
    have hc := hunits c
    simp only [Text.unitCount, reduceCtorEq, not_false_eq_true, iff_true]
    omega

/-- A field whose rule asks for a string and for nothing but its presence. -/
theorem presence_accepts_iff (required : Bool) (v : Json) :
    Rule.refusal? { base := .string, constraints := [.presence required (.minLength 1)] } v = none ↔
      ∃ s, v = .string s ∧ (required = true → s ≠ "") := by
  rw [Rule.accepts_iff_of_coerce fun _ => BaseType.coerce_string_iff]
  simp [Constraint.passes_presence_iff, ← length16_pos_iff]

theorem text_accepts_iff {f : Field} (hk : f.kind.isTextLike = true) (v : Json) :
    f.rule.refusal? v = none ↔
      ∃ s, v = .string s ∧ f.ContentFits s ∧ f.LengthFits s ∧
        (f.required = true → 1 ≤ Text.length16 s) := by
  rw [rule_of_isTextLike hk, Rule.accepts_iff_of_coerce fun _ => BaseType.coerce_string_iff]
  simp only [textRule, List.forall_mem_append, passes_patterns_iff, passes_lengths_iff,
    List.forall_mem_singleton, Constraint.passes_presence_iff, Check.passes_minLength_text,
    and_assoc]
  rfl

/-- The rule leaves out a least length that every password has anyway. -/
theorem password_accepts_iff (f : Field) (v : Json) :
    Rule.refusal?
      { base := .string
        constraints :=
          .passwordSize ::
            Constraint.lengths ((setLength f.minLength).filter (passwordLength < ·))
              (setLength f.maxLength) ++
            [.presence f.required (.minLength 1)] } v = none ↔
      ∃ s, v = .string s ∧ 8 ≤ Text.length16 s ∧ f.LengthFits s := by
  have hpass (s : String) :
      (∀ c ∈ .passwordSize ::
          Constraint.lengths ((setLength f.minLength).filter (passwordLength < ·))
            (setLength f.maxLength) ++
          [.presence f.required (.minLength 1)], c.check.Passes (.text s)) ↔
        8 ≤ Text.length16 s ∧ f.LengthFits s := by
    have hsize : Constraint.passwordSize.check.Passes (.text s) ↔ 8 ≤ Text.length16 s :=
      Check.passes_minLength_text
    have hone : (Check.minLength 1).Passes (.text s) ↔ 1 ≤ Text.length16 s :=
      Check.passes_minLength_text
    simp only [List.cons_append, List.forall_mem_cons, List.forall_mem_append,
      Constraint.passes_lengths_iff, Constraint.passes_presence_iff, LengthFits, Option.mem_def,
      Option.filter_eq_some_iff, setLength_eq_some_iff, decide_eq_true_eq, and_imp, hsize, hone]
    constructor
    · rintro ⟨hlong, ⟨hmin, hmax⟩, _⟩
      refine ⟨hlong, fun n hn hpos => ?_, hmax⟩
      by_cases hlt : passwordLength < n
      · exact hmin n hn hpos hlt
      · have hle : n.toNat ≤ 8 := by simpa [passwordLength, UInt64.lt_iff_toNat_lt] using hlt
        exact Nat.le_trans hle hlong
    · rintro ⟨hlong, hmin, hmax⟩
      exact ⟨hlong, ⟨fun n hn hpos _ => hmin n hn hpos, hmax⟩, fun _ => by omega, by simp⟩
  rw [Rule.accepts_iff_of_coerce fun _ => BaseType.coerce_string_iff]
  simp only [hpass]

theorem number_accepts_iff {f : Field} (hf : f.FiniteNumbers) (v : Json) :
    Rule.refusal?
      { base := .number
        constraints :=
          .presence f.required (.min (f.min.getD .zero)) :: f.max.toList.map .upTo } v = none ↔
      ∃ x, coerceNumber v = some x ∧ (f.required = true → f.min.getD .zero ≤ x) ∧
        ∀ bound, f.max = some bound → x ≤ bound := by
  have hmin := Binary64.isNaN_of_isFinite hf.least
  rw [Rule.accepts_iff_of_coerce fun _ => BaseType.coerce_number_iff]
  refine exists_congr fun x => and_congr_right fun hx => ?_
  have hnum := coerceNumber_isNaN hx
  have hmax : (∀ c ∈ f.max.toList.map Constraint.upTo, c.check.Passes (.number x)) ↔
      ∀ bound, f.max = some bound → x ≤ bound := by
    cases hm : f.max with
    | none => simp
    | some bound =>
      have hbound := Binary64.isNaN_of_isFinite (hf.max bound hm)
      simp [Constraint.upTo, Binary64.not_lt_iff_le hbound hnum]
  rw [List.forall_mem_cons, hmax, Constraint.passes_presence_iff, Check.passes_min_number,
    Binary64.not_lt_iff_le hnum hmin]

theorem rule_accepts_iff {f : Field} (hf : f.FiniteNumbers) (v : Json) :
    f.rule.refusal? v = none ↔ f.Admits v := by
  cases hk : f.kind with
  | text => simpa only [Admits, hk] using text_accepts_iff (by simp [hk, FieldKind.isTextLike]) v
  | textarea =>
    simpa only [Admits, hk] using text_accepts_iff (by simp [hk, FieldKind.isTextLike]) v
  | password => simpa only [rule, Admits, hk] using password_accepts_iff f v
  | date => simpa only [rule, Admits, hk] using presence_accepts_iff f.required v
  | select => simpa only [rule, Admits, hk] using presence_accepts_iff f.required v
  | radio => simpa only [rule, Admits, hk] using presence_accepts_iff f.required v
  | number => simpa only [rule, Admits, hk] using number_accepts_iff hf v
  | checkbox =>
    simp only [rule, Admits, hk]
    rw [Rule.accepts_iff_of_coerce fun _ => BaseType.coerce_boolean_iff]
    cases f.required <;> simp [Constraint.passes_presence_iff]
  | checkboxGroup =>
    simp only [rule, Admits, hk]
    rw [Rule.accepts_iff_of_coerce fun _ => BaseType.coerce_stringArray_iff]
    cases f.required <;>
      simp [Constraint.passes_presence_iff, and_assoc, Nat.one_le_iff_ne_zero]
  | file =>
    simp only [rule, Admits, hk]
    split
    · rw [Rule.accepts_iff_of_coerce fun _ => BaseType.coerce_binary_iff]
      simp
    · rw [Rule.accepts_iff_of_coerce fun _ => BaseType.coerce_binary_iff]
      simp [Constraint.optional]

theorem rule_isOptional_iff (f : Field) : f.rule.isOptional = true ↔ f.MayBeAbsent := by
  cases hk : f.kind <;> cases hr : f.required <;>
    simp [rule, Rule.isOptional, MayBeAbsent, Constraint.presence, Constraint.optional,
      Constraint.passwordSize, Constraint.matching, Constraint.upTo, hk, hr]
  all_goals exact Constraint.lengths_ne_optional _ _

/-- The schema of a form with this field alone. -/
def schema (f : Field) : Schema := Form.schema { fields := [f] }

theorem validate_of_present (f : Field) {values v : Json}
    (h : values.member? f.name = some v) (hv : v ≠ .null) :
    (f.schema.validate values).missingRequired = [] ∧
      (f.schema.validate values).errors =
        ((f.rule.refusal? v).map fun why => ⟨f.name, why.1, why.2⟩).toList := by
  have hp : presentValue values f.name = some v := presentValue_eq_some_iff.mpr ⟨h, hv⟩
  cases hr : f.rule.refusal? v <;>
    simp [schema, Form.schema, Schema.validate, SchemaEntry.error?, SchemaEntry.isMissing, hp, hr]

end Field

end FormCompiler
