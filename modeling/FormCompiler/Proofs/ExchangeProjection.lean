import FormCompiler.Exchange.Export
import FormCompiler.Proofs.Numeral

/-! What is left of a form after it is written as an exchange document and read back. The document
knows four kinds of fields, so the others come back as one of these. -/

namespace FormCompiler

open Exchange

theorem setLength_eq_ite (length : Option UInt64) :
    setLength length = if length = some 0 then none else length := by
  cases length with
  | none => rfl
  | some n => by_cases hn : n = 0 <;> simp [setLength, Option.filter, UInt64.pos_iff_ne_zero, hn]

namespace Field

/-- The kind that a field comes back with. -/
def carriedKind (f : Field) : FieldKind :=
  match f.kind with
  | .select | .radio => .select
  | .checkboxGroup => .checkboxGroup
  | .date => if f.valueType = some .datetime then .date else .text
  | .text | .textarea | .checkbox | .file | .password | .number => .text

def carriedValueType (f : Field) : Option ValueType :=
  match f.kind, f.valueType with
  | .text, some .number => some .number
  | .text, some .text => some .text
  | .text, some .alphanumeric => some .alphanumeric
  | .textarea, _ => some .text
  | .date, some .datetime => some .datetime
  | _, _ => none

/-- An empty list of options comes back as none at all. -/
def carriedOptions (f : Field) : Option (List FieldOption) :=
  match f.kind with
  | .select | .radio | .checkboxGroup => if f.options = some [] then none else f.options
  | _ => none

/-- The field that comes back at a position that counts from one. -/
def carried (position : Nat) (f : Field) : Field where
  id := "element-" ++ toString position
  kind := f.carriedKind
  label := f.label
  name := f.name
  required := f.required
  placeholder := if f.carriedKind = .text then some ("Enter " ++ f.label ++ "...") else none
  options := f.carriedOptions
  minLength := none
  maxLength := if f.maxLength = some 0 then none else f.maxLength
  min := none
  max := none
  step := none
  rows := none
  valueType := f.carriedValueType
  disablePastDates := false
  disableFutureDates := false

theorem kindOfCode_typeCode (f : Field) : kindOfCode (some f.typeCode) = f.carriedKind := by
  cases hk : f.kind
  case date =>
    by_cases hd : f.valueType = some .datetime <;>
      simp [typeCode, carriedKind, hasValueType, hk, hd] <;> decide
  all_goals
    simp only [typeCode, carriedKind, hk]
    decide

theorem valueTypeOfCode_valueCode (f : Field) :
    valueTypeOfCode f.valueCode = f.carriedValueType := by
  cases hk : f.kind <;> cases hv : f.valueType with
  | none => simp [valueCode, carriedValueType, hasValueType, hk, hv, valueTypeOfCode]
  | some t =>
    cases t <;> simp [valueCode, carriedValueType, hasValueType, hk, hv, valueTypeOfCode]

theorem filterMap_option?_written (options : List FieldOption) :
    (options.map fun o =>
      Json.object [("label", .string o.label), ("value", .string o.value)]).filterMap option? =
        options := by
  have hread (o : FieldOption) :
      option? (.object [("label", .string o.label), ("value", .string o.value)]) = some o := rfl
  induction options with
  | nil => rfl
  | cons o rest ih => simp only [List.map_cons, List.filterMap_cons, hread, ih]

theorem options?_optionValues (f : Field) :
    options? f.optionValues = if f.options = some [] then none else f.options := by
  cases ho : f.options with
  | none => simp [optionValues, optionList, ho, options?]
  | some options =>
    cases options with
    | nil => simp [optionValues, optionList, ho, options?]
    | cons o rest =>
      have h := filterMap_option?_written (o :: rest)
      simp only [List.map_cons] at h
      simp [optionValues, optionList, ho, options?, h]

theorem carriedOptions_eq_ite (f : Field) :
    f.carriedOptions =
      if f.kind.isChoice then if f.options = some [] then none else f.options else none := by
  cases hk : f.kind <;> simp [carriedOptions, FieldKind.isChoice, hk]

theorem isRequired_written (required : Bool) :
    isRequired (.string (if required then "YES" else "NO")) = required := by
  cases required <;> decide

theorem carriedKind_isTextLike (f : Field) :
    f.carriedKind.isTextLike = true ↔ f.carriedKind = .text := by
  have hk : f.carriedKind ≠ .textarea := by
    unfold carriedKind
    split <;> (try split) <;> simp
  cases hc : f.carriedKind <;> simp_all [FieldKind.isTextLike]

/-- Where the entry of the field stood does not matter for how it reads. -/
theorem toField_toEntry (f : Field) (written read : Nat) :
    (f.toEntry written).toField read = f.carried read := by
  have hoptions : options? (if f.kind.isChoice then f.optionValues else []) = f.carriedOptions := by
    rw [carriedOptions_eq_ite]
    split
    · exact options?_optionValues f
    · rfl
  simp only [Entry.toField, toEntry, carried, elementId, kindOfCode_typeCode,
    valueTypeOfCode_valueCode, maxLength?_written, setLength_eq_ite, isRequired_written, hoptions,
    carriedKind_isTextLike]

end Field

/-- Positions that are counted along a list are indices, moved by where the count begins. -/
theorem eq_mapIdx_of_cons {α β : Type} {number : Nat → List α → List β} {make : Nat → α → β}
    (hnil : ∀ position, number position [] = [])
    (hcons : ∀ position a rest,
      number position (a :: rest) = make position a :: number (position + 1) rest)
    (position : Nat) (items : List α) :
    number position items = items.mapIdx fun i a => make (i + position) a := by
  induction items generalizing position with
  | nil => exact hnil position
  | cons a rest ih =>
    have hshift (i : Nat) : i + 1 + position = i + (position + 1) := by omega
    rw [hcons, ih, List.mapIdx_cons, Nat.zero_add]
    simp only [hshift]

theorem Form.entriesFrom_eq_mapIdx (position : Nat) (fields : List Field) :
    entriesFrom position fields = fields.mapIdx fun i f => f.toEntry (i + position) :=
  eq_mapIdx_of_cons (fun _ => rfl) (fun _ _ _ => rfl) position fields

theorem Exchange.fieldsFrom_eq_mapIdx (position : Nat) (entries : List Entry) :
    fieldsFrom position entries = entries.mapIdx fun i e => e.toField (i + position) :=
  eq_mapIdx_of_cons (fun _ => rfl) (fun _ _ _ => rfl) position entries

theorem Form.toDocument_entries (form : Form) :
    form.toDocument.entries = form.fields.mapIdx fun i f => f.toEntry (i + 1) :=
  entriesFrom_eq_mapIdx 1 form.fields

theorem Exchange.Document.toImported_fields (d : Document) :
    d.toImported.fields = d.entries.mapIdx fun i e => e.toField (i + 1) :=
  fieldsFrom_eq_mapIdx 1 d.entries

theorem Form.toDocument_formName? (form : Form) :
    form.toDocument.formName? = if form.name = "" then none else some form.name := rfl

theorem Form.carried_fields (form : Form) :
    form.toDocument.toImported.fields = form.fields.mapIdx fun i f => f.carried (i + 1) := by
  rw [Document.toImported_fields, toDocument_entries, List.mapIdx_mapIdx]
  congr 1
  funext i f
  exact f.toField_toEntry (i + 1) (i + 1)

/-- Reading back what was written gives exactly this part of the form, with its fields numbered anew
from element-1 on. -/
theorem Form.toImported_toDocument (form : Form) :
    form.toDocument.toImported =
      { name := if form.name = "" then none else some form.name
        fields := form.fields.mapIdx fun i f => f.carried (i + 1)
        nextId := ⟨form.fields.length + 1⟩ } := by
  have hnext : form.toDocument.toImported.nextId = ⟨form.fields.length + 1⟩ := by
    simp [Document.toImported, toDocument_entries, IdCounter.startingAt]
  calc form.toDocument.toImported
      = { name := form.toDocument.formName?
          fields := form.toDocument.toImported.fields
          nextId := form.toDocument.toImported.nextId } := rfl
    _ = _ := by rw [toDocument_formName?, carried_fields, hnext]

/-- Four fields, of which a file and a date without a time come back as texts. -/
theorem Form.toImported_toDocument_four :
    let form : Form :=
      { name := "Order"
        fields :=
          [{ id := "size", kind := .radio, label := "Size", name := "size", required := true
             options := some [⟨"Small", "s"⟩, ⟨"Small", "s"⟩], minLength := some 1
             maxLength := some 0 },
            { id := "element-9", kind := .textarea, label := "Note", name := "note"
              placeholder := some "Any", maxLength := some 80, rows := some 5
              valueType := some .number },
            { id := "element-1", kind := .date, label := "Day", name := "day"
              disablePastDates := true },
            { id := "", kind := .file, label := "Scan", name := "scan", options := some [] }] }
    form.toDocument.toImported =
      { name := some "Order"
        fields :=
          [{ id := "element-1", kind := .select, label := "Size", name := "size", required := true
             options := some [⟨"Small", "s"⟩, ⟨"Small", "s"⟩] },
            { id := "element-2", kind := .text, label := "Note", name := "note"
              placeholder := some "Enter Note...", maxLength := some 80, valueType := some .text },
            { id := "element-3", kind := .text, label := "Day", name := "day"
              placeholder := some "Enter Day..." },
            { id := "element-4", kind := .text, label := "Scan", name := "scan"
              placeholder := some "Enter Scan..." }]
        nextId := ⟨5⟩ } := by
  intro form
  rw [toImported_toDocument form]
  decide

end FormCompiler
