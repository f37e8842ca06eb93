import FormCompiler.Proofs.ByteOrder
import FormCompiler.Proofs.ObjectKeys
import FormCompiler.Proofs.RequiredFields

/-! What the verdict on an object of values is made of. Each entry of the schema has one finding,
which depends on nothing but its own value, and the lists of the verdict are those findings in the
order of the entries. What is left are the keys that no entry has. -/

namespace FormCompiler

inductive Finding
  | accepted
  | missing (name : String)
  | failed (error : ValueError)
deriving DecidableEq

namespace Finding

def missing? : Finding → Option String
  | missing name => some name
  | _ => none

def error? : Finding → Option ValueError
  | failed error => some error
  | _ => none

theorem eq_accepted_iff (found : Finding) :
    found = accepted ↔ found.error? = none ∧ found.missing? = none := by
  cases found <;> simp [error?, missing?]

theorem length_filterMap (found : List Finding) :
    (found.filterMap error?).length + (found.filterMap missing?).length +
      found.count accepted = found.length := by
  induction found with
  | nil => rfl
  | cons first rest ih =>
    rw [List.length_cons, ← ih]
    cases first <;> simp [error?, missing?, List.filterMap_cons] <;> omega

end Finding

namespace SchemaEntry

/-- A value that is there is checked by the rule. One that is not is missing unless it is
optional. -/
def finding (values : Json) (e : SchemaEntry) : Finding :=
  match presentValue values e.name with
  | none => if e.rule.isOptional then .accepted else .missing e.name
  | some v => match e.rule.refusal? v with
    | none => .accepted
    | some (why, message) => .failed ⟨e.name, why, message⟩

/-- The entry has no value, or null, and need not have one, or it has a value that passes. -/
def IsMetBy (values : Json) (e : SchemaEntry) : Prop :=
  (values.member? e.name = none ∨ values.member? e.name = some .null) ∧
      e.rule.isOptional = true ∨
    ∃ v, values.member? e.name = some v ∧ v ≠ .null ∧ e.rule.refusal? v = none

variable {values : Json} {e : SchemaEntry}

theorem finding_error? : (e.finding values).error? = e.error? values := by
  cases hp : presentValue values e.name with
  | none => cases ho : e.rule.isOptional <;> simp [finding, error?, hp, ho, Finding.error?]
  | some v => cases hr : e.rule.refusal? v <;> simp [finding, error?, hp, hr, Finding.error?]

theorem finding_missing? :
    (e.finding values).missing? = if e.isMissing values then some e.name else none := by
  cases hp : presentValue values e.name with
  | none => cases ho : e.rule.isOptional <;> simp [finding, isMissing, hp, ho, Finding.missing?]
  | some v => cases hr : e.rule.refusal? v <;> simp [finding, isMissing, hp, hr, Finding.missing?]

theorem isMetBy_iff : e.IsMetBy values ↔ e.finding values = .accepted := by
  simp only [IsMetBy, ← presentValue_eq_none_iff, ← and_assoc, ← presentValue_eq_some_iff]
  cases hp : presentValue values e.name with
  | none => cases ho : e.rule.isOptional <;> simp [finding, hp, ho]
  | some v => cases hr : e.rule.refusal? v <;> simp [finding, hp, hr]

theorem finding_congr {other : Json} (h : other.member? e.name = values.member? e.name) :
    e.finding other = e.finding values := by
  rw [finding, finding, presentValue, presentValue, h]

end SchemaEntry

namespace Schema

variable (s : Schema) (values : Json)

/-- The findings in the order of the entries. -/
def findings : List Finding := s.entries.map (SchemaEntry.finding values)

theorem errors_eq : (s.validate values).errors = (s.findings values).filterMap Finding.error? := by
  rw [validate, findings, List.filterMap_map]
  exact List.filterMap_congr fun e _ => SchemaEntry.finding_error?.symm

theorem missingRequired_eq :
    (s.validate values).missingRequired = (s.findings values).filterMap Finding.missing? := by
  have hmissing (e : SchemaEntry) : (Option.guard (SchemaEntry.isMissing values) e).map
      SchemaEntry.name = (e.finding values).missing? := by
    rw [SchemaEntry.finding_missing?]
    cases h : e.isMissing values <;> simp [Option.guard, h]
  rw [validate, findings, List.filterMap_map, ← List.filterMap_eq_filter, List.map_filterMap]
  exact List.filterMap_congr fun e _ => hmissing e

theorem fields_errors_sublist :
    ((s.validate values).errors.map ValueError.field).Sublist s.names := by
  have hentries (entries : List SchemaEntry) :
      ((entries.filterMap (SchemaEntry.error? values)).map ValueError.field).Sublist
        (entries.map SchemaEntry.name) := by
    induction entries with
    | nil => exact List.Sublist.refl _
    | cons e rest ih =>
      cases herror : e.error? values with
      | none => simpa [herror] using ih.cons e.name
      | some err => simpa [herror, SchemaEntry.error?_field herror] using ih
  exact hentries s.entries

theorem missingRequired_sublist : (s.validate values).missingRequired.Sublist s.names :=
  List.filter_sublist.map SchemaEntry.name

theorem clear_iff_isMetBy :
    (s.validate values).errors = [] ∧ (s.validate values).missingRequired = [] ↔
      ∀ e ∈ s.entries, e.IsMetBy values := by
  rw [errors_eq, missingRequired_eq, List.filterMap_eq_nil_iff, List.filterMap_eq_nil_iff]
  simp only [← forall₂_and, ← Finding.eq_accepted_iff]
  simp [findings, SchemaEntry.isMetBy_iff]

theorem valid_iff_isMetBy :
    (s.validate values).valid = true ↔
      (∀ key, values.member? key ≠ none → key ∈ s.names) ∧
        ∀ e ∈ s.entries, e.IsMetBy values := by
  have hunknown : (s.validate values).unknownFields = [] ↔
      ∀ key, values.member? key ≠ none → key ∈ s.names := by
    simp only [validate, List.filter_eq_nil_iff, Json.mem_keys_iff]
    simp
  rw [Verdict.valid, Bool.and_eq_true, Bool.and_eq_true, List.isEmpty_iff, List.isEmpty_iff,
    List.isEmpty_iff, clear_iff_isMetBy, hunknown, and_comm]

variable {s values}

theorem mem_unknownFields_iff {key : String} :
    key ∈ (s.validate values).unknownFields ↔ values.member? key ≠ none ∧ key ∉ s.names := by
  simp [validate, List.mem_filter, Json.mem_keys_iff]

theorem unknownFields_pairwise :
    (s.validate values).unknownFields.Pairwise fun a b => Text.bytes a < Text.bytes b :=
  ((Json.keys_pairwise values).filter _).imp Text.bytes_lt_of_lt

theorem validate_of_not_isObject (h : values.isObject = false) :
    s.validate values = s.validate (.object []) := by
  cases values with
  | object members => simp [Json.isObject] at h
  | null | bool _ | number _ | string _ | array _ => rfl

section Perm

variable {t : Schema}

theorem unknownFields_of_perm (h : t.entries.Perm s.entries) :
    (t.validate values).unknownFields = (s.validate values).unknownFields := by
  have hnames (key : String) : t.names.contains key = s.names.contains key :=
    (h.map SchemaEntry.name).contains_eq
  simp only [validate, hnames]

theorem errors_perm (h : t.entries.Perm s.entries) :
    (t.validate values).errors.Perm (s.validate values).errors :=
  h.filterMap _

theorem missingRequired_perm (h : t.entries.Perm s.entries) :
    (t.validate values).missingRequired.Perm (s.validate values).missingRequired :=
  (h.filter _).map _

theorem valid_of_perm (h : t.entries.Perm s.entries) :
    (t.validate values).valid = (s.validate values).valid := by
  rw [Verdict.valid, Verdict.valid, unknownFields_of_perm h, (errors_perm h).isEmpty_eq,
    (missingRequired_perm h).isEmpty_eq]

end Perm

/-- The verdict on any values, part by part: when it is favourable, that each entry has a share in
one of its lists or in none, which keys are unknown, and what does not depend on the order of the
entries or on the other values. -/
theorem verdict_entrywise (s : Schema) (values : Json) :
    let verdict := s.validate values
    let findings := s.findings values
    (values.isObject = false → verdict = s.validate (.object [])) ∧
    (verdict.valid = true ↔
      (∀ key, values.member? key ≠ none → key ∈ s.names) ∧ ∀ e ∈ s.entries, e.IsMetBy values) ∧
    (verdict.errors = findings.filterMap Finding.error? ∧
      verdict.missingRequired = findings.filterMap Finding.missing? ∧
      verdict.errors.length + verdict.missingRequired.length + findings.count .accepted =
        s.entries.length ∧
      (verdict.errors.map ValueError.field).Sublist s.names ∧
      verdict.missingRequired.Sublist s.names) ∧
    ((∀ key, key ∈ verdict.unknownFields ↔ values.member? key ≠ none ∧ key ∉ s.names) ∧
      verdict.unknownFields.Pairwise fun a b => Text.bytes a < Text.bytes b) ∧
    (∀ t : Schema, t.entries.Perm s.entries →
      (t.validate values).errors.Perm verdict.errors ∧
      (t.validate values).missingRequired.Perm verdict.missingRequired ∧
      (t.validate values).valid = verdict.valid ∧
      (t.validate values).unknownFields = verdict.unknownFields) ∧
    ∀ (key : String) (other : Json),
      (∀ k, k ≠ key → other.member? k = values.member? k) →
      ∀ e ∈ s.entries, e.name ≠ key → e.finding other = e.finding values := by
  intro verdict findings
  have hcount : verdict.errors.length + verdict.missingRequired.length + findings.count .accepted =
      s.entries.length := by
    have hsplit := Finding.length_filterMap findings
    rw [← s.errors_eq values, ← s.missingRequired_eq values] at hsplit
    rw [hsplit]
    exact List.length_map _
  refine ⟨validate_of_not_isObject, s.valid_iff_isMetBy values, ?_, ?_, ?_, ?_⟩
  · exact ⟨s.errors_eq values, s.missingRequired_eq values, hcount,
      s.fields_errors_sublist values, s.missingRequired_sublist values⟩
  · exact ⟨fun _ => mem_unknownFields_iff, unknownFields_pairwise⟩
  · exact fun t h => ⟨errors_perm h, missingRequired_perm h, valid_of_perm h,
      unknownFields_of_perm h⟩
  · exact fun key other h e _ hne => SchemaEntry.finding_congr (h e.name hne)

end Schema

end FormCompiler
