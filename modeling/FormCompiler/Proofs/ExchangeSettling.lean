import FormCompiler.Proofs.ExchangeProjection

/-! Reading and writing a document over and over. After two passes nothing changes any more, and
after one pass only what was read as a date and written as a bare one. -/

namespace FormCompiler

open Exchange

namespace Field

/-- A field that the exchange format can say in full, as far as it says anything of it. -/
structure Settled (f : Field) : Prop where
  notFile : f.kind ≠ .file
  dated : f.kind = .date → f.valueType = some .datetime
  length : f.maxLength ≠ some 0

theorem setLength_eq_self_iff (length : Option UInt64) :
    setLength length = length ↔ length ≠ some 0 := by
  by_cases hz : length = some 0 <;> simp [setLength_eq_ite, hz]

theorem carried_settled (f : Field) (position : Nat) : (f.carried position).Settled where
  notFile := by
    simp only [carried, carriedKind]
    split <;> (try split) <;> simp
  dated := by
    cases hk : f.kind <;> simp [carried, carriedKind, carriedValueType, hk]
    split <;> simp_all
  length := by
    by_cases hz : f.maxLength = some 0 <;> simp [carried, hz]

theorem typeCode_carried_iff (f : Field) (position : Nat) :
    (f.carried position).typeCode = f.typeCode ↔
      f.kind ≠ .file ∧ (f.kind = .date → f.valueType = some .datetime) := by
  cases hk : f.kind
  case date =>
    by_cases hd : f.valueType = some .datetime <;>
      simp [typeCode, carried, carriedKind, carriedValueType, hasValueType, hk, hd]
  all_goals simp [typeCode, carried, carriedKind, hk]

theorem valueCode_carried (f : Field) (position : Nat) :
    (f.carried position).valueCode = f.valueCode := by
  cases hk : f.kind <;> cases hv : f.valueType with
  | none => simp [valueCode, carried, carriedKind, carriedValueType, hasValueType, hk, hv]
  | some t =>
    cases t <;> simp [valueCode, carried, carriedKind, carriedValueType, hasValueType, hk, hv]

theorem carriedKind_isChoice (f : Field) : f.carriedKind.isChoice = f.kind.isChoice := by
  cases hk : f.kind
  case date =>
    by_cases hd : f.valueType = some .datetime <;> simp [carriedKind, hk, hd, FieldKind.isChoice]
  all_goals simp [carriedKind, hk, FieldKind.isChoice]

theorem optionList_carried {f : Field} (hc : f.kind.isChoice = true) (position : Nat) :
    (f.carried position).optionList = f.optionList := by
  change f.carriedOptions.getD [] = f.options.getD []
  by_cases ho : f.options = some [] <;> simp [carriedOptions_eq_ite, hc, ho]

theorem lengthText_eq_iff (length : Option UInt64) :
    ((setLength length).map toString).getD "" = (length.map toString).getD "" ↔
      length ≠ some 0 := by
  cases length with
  | none => simp [setLength]
  | some n =>
    by_cases hn : n = 0
    · subst hn
      decide
    · have hs := (setLength_eq_self_iff (some n)).mpr (by simpa using hn)
      simp [hs, hn]

/-- Settled fields are the ones that a pass writes as they were written before. -/
theorem toEntry_carried_iff (f : Field) (read written : Nat) :
    (f.carried read).toEntry written = f.toEntry written ↔ f.Settled := by
  have hdefaults : (if f.carriedKind.isChoice then (f.carried read).optionValues else []) =
      if f.kind.isChoice then f.optionValues else [] := by
    rw [carriedKind_isChoice]
    split
    · next hc => rw [optionValues, optionList_carried hc, optionValues]
    · rfl
  have hlength : (f.carried read).maxLength = setLength f.maxLength :=
    (setLength_eq_ite f.maxLength).symm
  have hentry : (f.carried read).toEntry written = f.toEntry written ↔
      (f.carried read).typeCode = f.typeCode ∧
        ((setLength f.maxLength).map toString).getD "" = (f.maxLength.map toString).getD "" := by
    rw [← hlength]
    simp only [toEntry, Entry.mk.injEq, TypeSpec.mk.injEq, valueCode_carried]
    constructor
    · rintro ⟨_, _, _, htype, _, hlength, _⟩
      exact ⟨Option.some.inj htype, Json.string.inj hlength⟩
    · rintro ⟨htype, hlength⟩
      exact ⟨trivial, rfl, rfl, congrArg some htype, hdefaults, congrArg Json.string hlength,
        trivial, rfl⟩
  rw [hentry, typeCode_carried_iff, lengthText_eq_iff]
  constructor
  · rintro ⟨⟨hfile, hdate⟩, hlength⟩
    exact ⟨hfile, hdate, hlength⟩
  · intro h
    exact ⟨⟨h.notFile, h.dated⟩, h.length⟩

end Field

namespace Exchange

/-- An entry that reads as a date without a time. -/
def Entry.IsBareDate (e : Entry) : Prop :=
  (∃ t, e.spec.type = some t ∧ Text.spells "datetime" t.toList = true) ∧
    e.spec.valueType ≠ "DATEANDTIME"

/-- No text spells two words. -/
theorem spells_unique {word other : String} {cs : List Char} (h : Text.spells word cs = true)
    (h' : Text.spells other cs = true) : word = other := by
  rw [Text.spells, beq_iff_eq] at h h'
  exact String.toList_injective (h.symm.trans h')

theorem kindOfCode_eq_date_iff (code : Option String) :
    kindOfCode code = .date ↔ ∃ t, code = some t ∧ Text.spells "datetime" t.toList = true := by
  cases code with
  | none => simp [kindOfCode]
  | some t =>
    by_cases hd : Text.spells "dropdown" t.toList = true
    · have hnot : ¬ Text.spells "datetime" t.toList = true :=
        fun ht => absurd (spells_unique hd ht) (by decide)
      simp [kindOfCode, hd, hnot]
    · by_cases ht : Text.spells "datetime" t.toList = true
      · simp [kindOfCode, hd, ht]
      · by_cases hm : Text.spells "multicheck" t.toList = true <;> simp [kindOfCode, hd, ht, hm]

theorem kindOfCode_ne_file (code : Option String) : kindOfCode code ≠ .file := by
  simp only [kindOfCode]
  split
  · simp
  · split
    · simp
    · split <;> simp

theorem valueTypeOfCode_eq_datetime_iff (code : String) :
    valueTypeOfCode code = some .datetime ↔ code = "DATEANDTIME" := by
  constructor
  · intro h
    unfold valueTypeOfCode at h
    split at h <;> simp_all
  · rintro rfl
    rfl

theorem leadingNumber?_lt {s : String} {n : Nat} (h : leadingNumber? s = some n) :
    n < UInt64.size := by
  simp only [leadingNumber?, Option.ite_none_left_eq_some, Option.some.injEq, not_or,
    Nat.not_le] at h
  obtain ⟨⟨_, hlt⟩, rfl⟩ := h
  exact hlt

theorem wholePart?_lt {x : Binary64} {n : Nat} (h : wholePart? x = some n) : n < UInt64.size := by
  simp only [wholePart?, Option.ite_none_right_eq_some, Option.some.injEq] at h
  obtain ⟨_, rfl⟩ := h
  have hsize : 0 < UInt64.size := by decide
  omega

theorem maxLength?_ne_zero (v : Json) : maxLength? v ≠ some 0 := by
  have hpos (number : Option Nat) (hlt : ∀ n, number = some n → n < UInt64.size) :
      (number.filter (0 < ·)).map UInt64.ofNat ≠ some 0 := by
    intro h
    obtain ⟨n, hn, hzero⟩ := Option.map_eq_some_iff.mp h
    obtain ⟨hn, hpos⟩ := Option.filter_eq_some_iff.mp hn
    have hmod := congrArg UInt64.toNat hzero
    rw [UInt64.toNat_ofNat_of_lt' (hlt n hn)] at hmod
    simp [hmod] at hpos
  cases v with
  | number n => exact hpos _ fun _ => wholePart?_lt
  | string s => exact hpos _ fun _ => leadingNumber?_lt
  | _ => simp [maxLength?]

/-- Only a bare date is read as a field that the next pass writes in another way. -/
theorem Entry.toField_settled_iff (e : Entry) (position : Nat) :
    (e.toField position).Settled ↔ ¬ e.IsBareDate := by
  have hdate : (e.toField position).kind = .date ↔
      ∃ t, e.spec.type = some t ∧ Text.spells "datetime" t.toList = true :=
    kindOfCode_eq_date_iff e.spec.type
  have htime : (e.toField position).valueType = some .datetime ↔
      e.spec.valueType = "DATEANDTIME" := valueTypeOfCode_eq_datetime_iff e.spec.valueType
  rw [IsBareDate, ← hdate, ne_eq, ← htime, not_and, not_not]
  exact ⟨fun h => h.dated,
    fun h => ⟨kindOfCode_ne_file e.spec.type, h, maxLength?_ne_zero e.spec.maxLength⟩⟩

theorem Document.toImported_settled_iff (d : Document) :
    (∀ f ∈ d.toImported.fields, f.Settled) ↔ ¬ ∃ e ∈ d.entries, e.IsBareDate := by
  rw [toImported_fields]
  constructor
  · rintro h ⟨e, he, hbare⟩
    obtain ⟨i, hi, rfl⟩ := List.mem_iff_getElem.mp he
    exact (Entry.toField_settled_iff _ _).mp (h _ (List.mem_mapIdx.mpr ⟨i, hi, rfl⟩)) hbare
  · intro h f hf
    obtain ⟨i, hi, rfl⟩ := List.mem_mapIdx.mp hf
    exact (Entry.toField_settled_iff _ _).mpr fun hbare => h ⟨_, List.getElem_mem hi, hbare⟩

/-- One pass: a document is read, put in place of the fields of a form, and written again. -/
def Document.pass (current : Form) (d : Document) : Document :=
  (d.toImported.applyTo current).toDocument

theorem Document.name_ne_empty_of_formName? {d : Document} {name : String}
    (h : d.formName? = some name) : name ≠ "" := by
  unfold formName? at h
  split at h
  · simp only [Option.ite_none_left_eq_some, Option.some.injEq] at h
    exact h.2 ▸ h.1
  · simp at h

/-- A read form without a name was put in place of another one. -/
theorem Document.applyTo_name {d : Document} {current : Form}
    (h : (d.toImported.applyTo current).name = "") : current.name = "" := by
  change d.formName?.getD current.name = "" at h
  cases hd : d.formName? with
  | none => simpa [hd] using h
  | some name => exact absurd (by simpa [hd] using h) (name_ne_empty_of_formName? hd)

end Exchange

theorem Form.pass_toDocument_entries (form current : Form) :
    (form.toDocument.pass current).entries =
      form.fields.mapIdx fun i f => (f.carried (i + 1)).toEntry (i + 1) := by
  rw [Document.pass, toDocument_entries]
  change form.toDocument.toImported.fields.mapIdx _ = _
  rw [carried_fields, List.mapIdx_mapIdx]
  rfl

/-- A pass leaves a written form as it is when every field is settled and the form has a name, or
takes its empty name again. -/
theorem Form.pass_toDocument_eq_iff (form current : Form) :
    form.toDocument.pass current = form.toDocument ↔
      (form.name = "" → current.name = "") ∧ ∀ f ∈ form.fields, f.Settled := by
  have hentries : (form.toDocument.pass current).entries = form.toDocument.entries ↔
      ∀ f ∈ form.fields, f.Settled := by
    rw [pass_toDocument_entries, toDocument_entries, List.mapIdx_eq_mapIdx_iff]
    constructor
    · intro h f hf
      obtain ⟨i, hi, rfl⟩ := List.mem_iff_getElem.mp hf
      exact (Field.toEntry_carried_iff _ _ _).mp (h i hi)
    · intro h i hi
      exact (Field.toEntry_carried_iff _ _ _).mpr (h _ (List.getElem_mem hi))
  have hname : (form.toDocument.pass current).header = form.toDocument.header ↔
      (form.name = "" → current.name = "") := by
    have hread : (form.toDocument.pass current).header =
        { formId := .ofNat 1, formName := .string (form.toDocument.formName?.getD current.name) } :=
      rfl
    rw [hread, toDocument_formName?]
    by_cases he : form.name = "" <;> simp [toDocument, he]
  rw [← hentries, ← hname]
  constructor
  · intro h
    exact ⟨congrArg Document.header h, congrArg Document.entries h⟩
  · rintro ⟨hh, he⟩
    calc form.toDocument.pass current
        = ⟨{}, (form.toDocument.pass current).header, (form.toDocument.pass current).entries⟩ := rfl
      _ = ⟨{}, form.toDocument.header, form.toDocument.entries⟩ := by rw [hh, he]
      _ = form.toDocument := rfl

/-- A pass writes what was read, and from a written form only settled fields are read. -/
theorem Form.reread_settled (form : Form) : ∀ f ∈ form.toDocument.toImported.fields, f.Settled := by
  intro f hf
  rw [carried_fields] at hf
  obtain ⟨i, hi, rfl⟩ := List.mem_mapIdx.mp hf
  exact Field.carried_settled _ _

/-- Whatever a document says, passes over it come to rest after the second one. They do after the
first exactly when no entry is a date without a time. -/
theorem Exchange.Document.pass_settles (current : Form) (d : Document) :
    ((d.pass current).pass current).pass current = (d.pass current).pass current ∧
      ((d.pass current).pass current = d.pass current ↔
        ¬ ∃ e ∈ d.entries, e.IsBareDate) := by
  constructor
  · exact (Form.pass_toDocument_eq_iff ((d.pass current).toImported.applyTo current) current).mpr
      ⟨applyTo_name, Form.reread_settled (d.toImported.applyTo current)⟩
  · calc (d.pass current).pass current = d.pass current
        ↔ _ := Form.pass_toDocument_eq_iff (d.toImported.applyTo current) current
      _ ↔ ∀ f ∈ d.toImported.fields, f.Settled := and_iff_right applyTo_name
      _ ↔ _ := d.toImported_settled_iff

/-- A written form comes to rest after one pass over the form that nobody has edited. It stays as it
was written exactly when it has a name and the format can say each of its fields in full. -/
theorem Form.written_settles (form : Form) :
    (form.toDocument.pass {}).pass {} = form.toDocument.pass {} ∧
      (form.toDocument.pass {} = form.toDocument ↔
        form.name ≠ "" ∧ ∀ f ∈ form.fields, f.Settled) := by
  constructor
  · exact (pass_toDocument_eq_iff (form.toDocument.toImported.applyTo {}) {}).mpr
      ⟨Document.applyTo_name, form.reread_settled⟩
  · rw [pass_toDocument_eq_iff]
    have hnamed : ({} : Form).name ≠ "" := by decide
    have hname : (form.name = "" → ({} : Form).name = "") ↔ form.name ≠ "" := by
      simp only [hnamed, imp_false, ne_eq]
    rw [hname]

end FormCompiler
