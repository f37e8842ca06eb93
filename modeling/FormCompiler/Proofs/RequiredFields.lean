import FormCompiler.Proofs.FieldPreview
import Mathlib.Data.List.Nodup

/-! What happens to a required field that is left empty. Each kind of field has its own way to
refuse that, except that a number takes the empty string for zero, which may well be within its
bounds. -/

namespace FormCompiler

/-- Whether a field of the name is among the missing ones or has an error. -/
def Verdict.Reports (v : Verdict) (name : String) : Prop :=
  name ∈ v.missingRequired ∨ ∃ e ∈ v.errors, e.field = name

theorem Verdict.valid_of_reports {v : Verdict} {name : String} (h : v.Reports name) :
    v.valid = false := by
  rcases h with hmissing | ⟨e, he, _⟩
  · have hne : v.missingRequired.isEmpty = false := by
      simpa using List.ne_nil_of_mem hmissing
    simp [valid, hne]
  · have hne : v.errors.isEmpty = false := by
      simpa using List.ne_nil_of_mem he
    simp [valid, hne]

namespace Field

/-- Whether the values fail the rule of the field. -/
def IsRefused (f : Field) (values : Json) : Prop :=
  match presentValue values f.name with
  | none => f.rule.isOptional = false
  | some v => f.rule.refusal? v ≠ none

/-- What a field has as its entry when nobody fills it in, or when it is emptied again. -/
def EmptyEntry (f : Field) : Option Json → Prop
  | none | some .null => True
  | some v =>
    match f.kind with
    | .text | .textarea | .password | .date | .select | .radio | .number => v = .string ""
    | .checkboxGroup => v = .array []
    | .checkbox => v = .bool false
    | .file => False

/-- A number whose entry is the empty string and whose bounds leave zero in. -/
def TakesEmptyForZero (f : Field) (entry : Option Json) : Prop :=
  f.kind = .number ∧ entry = some (.string "") ∧
    ¬ .zero < f.min.getD .zero ∧ ∀ bound, f.max = some bound → ¬ bound < .zero

end Field

theorem Field.isRefused_iff (f : Field) (values : Json) :
    f.IsRefused values ↔ SchemaEntry.isMissing values ⟨f.name, f.rule⟩ = true ∨
      ∃ e, SchemaEntry.error? values ⟨f.name, f.rule⟩ = some e := by
  cases hp : presentValue values f.name with
  | none => simp [IsRefused, SchemaEntry.isMissing, SchemaEntry.error?, hp]
  | some v =>
    cases hr : f.rule.refusal? v <;>
      simp [IsRefused, SchemaEntry.isMissing, SchemaEntry.error?, hp, hr]

theorem SchemaEntry.error?_field {values : Json} {entry : SchemaEntry} {e : ValueError}
    (h : entry.error? values = some e) : e.field = entry.name := by
  simp only [SchemaEntry.error?, Option.bind_eq_bind, Option.bind_eq_some_iff] at h
  obtain ⟨v, _, why, _, he⟩ := h
  rw [← Option.some.inj he]

theorem Form.reports_iff (form : Form) (values : Json) (name : String) :
    (form.schema.validate values).Reports name ↔
      ∃ f ∈ form.fields, f.name = name ∧ f.IsRefused values := by
  simp only [Verdict.Reports, Schema.validate, schema, List.mem_map, List.mem_filter,
    List.mem_filterMap, Field.isRefused_iff]
  constructor
  · rintro (⟨_, ⟨⟨f, hf, rfl⟩, hmissing⟩, hname⟩ | ⟨e, ⟨_, ⟨f, hf, rfl⟩, he⟩, hname⟩)
    · exact ⟨f, hf, hname, Or.inl hmissing⟩
    · exact ⟨f, hf, (SchemaEntry.error?_field he).symm.trans hname, Or.inr ⟨e, he⟩⟩
  · rintro ⟨f, hf, hname, hmissing | ⟨e, he⟩⟩
    · exact Or.inl ⟨_, ⟨⟨f, hf, rfl⟩, hmissing⟩, hname⟩
    · exact Or.inr ⟨e, ⟨_, ⟨f, hf, rfl⟩, he⟩, (SchemaEntry.error?_field he).trans hname⟩

namespace Field

theorem refusal?_emptyString_number_iff {f : Field} (hk : f.kind = .number)
    (hreq : f.required = true) :
    f.rule.refusal? (.string "") = none ↔ f.TakesEmptyForZero (some (.string "")) := by
  have hzero : coerceNumber (.string "") = some .zero := by decide
  have hmax : (∀ c ∈ f.max.toList.map Constraint.upTo, c.check.Passes (.number .zero)) ↔
      ∀ bound, f.max = some bound → ¬ bound < .zero := by
    cases f.max <;> simp [Constraint.upTo]
  simp only [rule, hk]
  rw [Rule.accepts_iff_of_coerce fun _ => BaseType.coerce_number_iff]
  simp only [hzero, Option.some.injEq, exists_eq_left', List.forall_mem_cons, hmax,
    Constraint.passes_presence_iff, hreq, Check.passes_min_number, TakesEmptyForZero, hk, true_and,
    forall_const]

/-- Only a number lets an entry through that is there and empty. -/
theorem refusal?_emptyEntry_iff {f : Field} (hreq : f.required = true) {v : Json}
    (hnull : v ≠ .null) (hempty : f.EmptyEntry (some v)) :
    f.rule.refusal? v = none ↔ f.TakesEmptyForZero (some v) := by
  have hother (hk : f.kind ≠ .number) (hrefused : f.rule.refusal? v ≠ none) :
      f.rule.refusal? v = none ↔ f.TakesEmptyForZero (some v) :=
    iff_of_false hrefused fun h => hk h.1
  have hlength : Text.length16 "" = 0 := by decide
  simp only [EmptyEntry] at hempty
  cases hk : f.kind with
  | number =>
    have hv : v = .string "" := by simpa [hk] using hempty
    subst hv
    exact refusal?_emptyString_number_iff hk hreq
  | text | textarea =>
    have hv : v = .string "" := by simpa [hk] using hempty
    apply hother (by simp [hk])
    rw [ne_eq, text_accepts_iff (by simp [hk, FieldKind.isTextLike]), hv]
    rintro ⟨s, hs, _, _, hlong⟩
    have hone := hlong hreq
    rw [← Json.string.inj hs, hlength] at hone
    omega
  | password =>
    have hv : v = .string "" := by simpa [hk] using hempty
    apply hother (by simp [hk])
    simp only [rule, hk]
    rw [ne_eq, password_accepts_iff, hv]
    rintro ⟨s, hs, hlong, _⟩
    rw [← Json.string.inj hs, hlength] at hlong
    omega
  | date | select | radio =>
    have hv : v = .string "" := by simpa [hk] using hempty
    apply hother (by simp [hk])
    simp only [rule, hk]
    rw [ne_eq, presence_accepts_iff, hv]
    rintro ⟨s, hs, hne⟩
    exact hne hreq (Json.string.inj hs).symm
  | checkbox =>
    have hv : v = .bool false := by simpa [hk] using hempty
    apply hother (by simp [hk])
    simp only [rule, hk, hv, hreq]
    decide
  | checkboxGroup =>
    have hv : v = .array [] := by simpa [hk] using hempty
    apply hother (by simp [hk])
    simp only [rule, hk, hv, hreq]
    decide
  | file => simp [hk] at hempty

/-- A required field refuses an empty entry unless it takes it for zero. -/
theorem isRefused_of_emptyEntry_iff {f : Field} (hreq : f.required = true) {values : Json}
    (hempty : f.EmptyEntry (values.member? f.name)) :
    f.IsRefused values ↔ ¬ f.TakesEmptyForZero (values.member? f.name) := by
  have hneeded : f.rule.isOptional = false := by
    have hnot : ¬ f.rule.isOptional = true := by
      rw [rule_isOptional_iff]
      exact fun h => absurd h.1 (by simp [hreq])
    simpa using hnot
  cases hm : values.member? f.name with
  | none =>
    have hp : presentValue values f.name = none := presentValue_eq_none_iff.mpr (Or.inl hm)
    simp [IsRefused, hp, hneeded, TakesEmptyForZero]
  | some v =>
    by_cases hnull : v = .null
    · have hp : presentValue values f.name = none :=
        presentValue_eq_none_iff.mpr (Or.inr (by rw [hm, hnull]))
      simp [IsRefused, hp, hneeded, TakesEmptyForZero, hnull]
    · have hp : presentValue values f.name = some v := presentValue_eq_some_iff.mpr ⟨hm, hnull⟩
      rw [hm] at hempty
      rw [← refusal?_emptyEntry_iff hreq hnull hempty]
      simp [IsRefused, hp]

end Field

/-- A required field with an empty entry is reported, and so the values are not valid, unless the
field takes the empty string for zero; then it is not reported. -/
theorem Form.empty_required_reported_iff {form : Form}
    (hnames : (form.fields.map Field.name).Nodup) {f : Field} (hf : f ∈ form.fields)
    (hreq : f.required = true) {values : Json} (hempty : f.EmptyEntry (values.member? f.name)) :
    ((form.schema.validate values).Reports f.name ↔
      ¬ f.TakesEmptyForZero (values.member? f.name)) ∧
    (¬ f.TakesEmptyForZero (values.member? f.name) →
      (form.schema.validate values).valid = false) := by
  have hreports : (form.schema.validate values).Reports f.name ↔
      ¬ f.TakesEmptyForZero (values.member? f.name) := by
    rw [← Field.isRefused_of_emptyEntry_iff hreq hempty, reports_iff]
    constructor
    · rintro ⟨g, hg, hname, hrefused⟩
      rwa [← List.inj_on_of_nodup_map hnames hg hf hname]
    · exact fun hrefused => ⟨f, hf, rfl, hrefused⟩
  exact ⟨hreports, fun h => Verdict.valid_of_reports (hreports.mpr h)⟩

/-- Zero is below the least age, so the empty string is no age. -/
theorem Form.empty_required_reported_iff_age :
    let age : Field :=
      { id := "element-1", kind := .number, label := "Age", name := "age", required := true
        min := some ⟨0x4032000000000000⟩ }
    let form : Form := { fields := [age] }
    let values : Json := .object [("age", .string "")]
    (form.fields.map Field.name).Nodup ∧ age ∈ form.fields ∧ age.required = true ∧
      age.EmptyEntry (values.member? age.name) ∧
      (form.schema.validate values).Reports age.name ∧
      (form.schema.validate values).valid = false := by
  intro age form values
  have hnames : (form.fields.map Field.name).Nodup := by decide
  have hf : age ∈ form.fields := List.mem_singleton.mpr rfl
  have hempty : age.EmptyEntry (values.member? age.name) := rfl
  have hnot : ¬ age.TakesEmptyForZero (values.member? age.name) := by
    rintro ⟨_, _, hmin, _⟩
    exact hmin (by decide)
  have h := empty_required_reported_iff hnames hf rfl hempty
  exact ⟨hnames, hf, rfl, hempty, h.1.mpr hnot, h.2 hnot⟩

/-- A required number without a least value is content with the empty string. -/
theorem Form.empty_required_number_valid :
    let amount : Field :=
      { id := "element-1", kind := .number, label := "Amount", name := "amount", required := true }
    let form : Form := { fields := [amount] }
    let values : Json := .object [("amount", .string "")]
    (form.fields.map Field.name).Nodup ∧ amount ∈ form.fields ∧ amount.required = true ∧
      amount.EmptyEntry (values.member? amount.name) ∧
      ¬ (form.schema.validate values).Reports amount.name ∧
      (form.schema.validate values).valid = true := by
  intro amount form values
  have hvalid : (form.schema.validate values).valid = true := by decide
  refine ⟨by decide, List.mem_singleton.mpr rfl, rfl, rfl, fun hreports => ?_, hvalid⟩
  simp [Verdict.valid_of_reports hreports] at hvalid

end FormCompiler
