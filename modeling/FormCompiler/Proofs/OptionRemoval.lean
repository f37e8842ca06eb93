import FormCompiler.Proofs.EditorGuards
import FormCompiler.Proofs.ImportedIssues

/-! Taking an option out of a field. The rest of the field is looked at again, as after any other edit.
What an import leaves wrong is not looked at before, so an option can be kept in by the name of its
field or by the options beside it. -/

namespace FormCompiler

namespace EditorState

variable {s t : EditorState} {f : Field}

theorem mem_updateField_fields {g : Field} (ht : s.updateField g = .ok t)
    (hf : f ∈ t.form.fields) : f ∈ s.form.fields ∨ f.WellFormed := by
  obtain ⟨index, _, hg, _, rfl⟩ := updateField_eq_ok_iff.mp ht
  rcases List.mem_or_eq_of_mem_set hf with hold | rfl
  · exact Or.inl hold
  · exact Or.inr hg

/-- Fields come from nowhere but the form before the edit, the guard of an update and the entries of
a document. -/
theorem mem_apply_fields {e : Edit} (ht : s.apply e = .ok t) (hf : f ∈ t.form.fields) :
    (f ∈ s.form.fields ∨ f.WellFormed) ∨
      ∃ (entry : Exchange.Entry) (position : Nat), f = entry.toField position := by
  cases e with
  | addField kind =>
    obtain rfl := Except.ok.inj ht
    rcases List.mem_append.mp hf with hold | hnew
    · exact Or.inl (Or.inl hold)
    · rw [List.mem_singleton.mp hnew]
      exact Or.inl (Or.inr (Field.withDefaults_wellFormed _ _))
  | updateField g => exact Or.inl (mem_updateField_fields ht hf)
  | removeField id =>
    obtain ⟨index, _, rfl⟩ := removeField_eq_ok_iff.mp ht
    exact Or.inl (Or.inl ((List.eraseIdx_sublist _ _).subset hf))
  | moveField source target => exact Or.inl (Or.inl ((moveField_perm ht).mem_iff.mp hf))
  | setLayout layout =>
    obtain rfl := Except.ok.inj ht
    exact Or.inl (Or.inl hf)
  | setName name =>
    obtain ⟨_, rfl⟩ := setName_eq_ok_iff.mp ht
    exact Or.inl (Or.inl hf)
  | addOption id option =>
    obtain ⟨_, _, _, _, hu⟩ := addOption_eq_ok_iff.mp ht
    exact Or.inl (mem_updateField_fields hu hf)
  | removeOption id index =>
    obtain ⟨_, _, _, hu⟩ := removeOption_eq_ok_iff.mp ht
    exact Or.inl (mem_updateField_fields hu hf)
  | clear =>
    obtain rfl := Except.ok.inj ht
    exact absurd hf List.not_mem_nil
  | importDocument d =>
    obtain rfl := Except.ok.inj ht
    have hfields : (s.importDocument d).form.fields = d.toImported.fields := rfl
    rw [hfields, Exchange.Document.toImported_fields] at hf
    obtain ⟨i, hi, rfl⟩ := List.mem_mapIdx.mp hf
    exact Or.inr ⟨d.entries[i], i + 1, rfl⟩

/-- What holds of all fields of a form, of all well-formed fields and of all that are read from a
document, holds of all fields that a run comes upon. -/
theorem run_forall_fields {P : Field → Prop} (hs : ∀ f ∈ s.form.fields, P f)
    (hsound : ∀ f : Field, f.WellFormed → P f)
    (hread : ∀ (e : Exchange.Entry) position, P (e.toField position)) (edits : List Edit) :
    ∀ f ∈ (s.run edits).form.fields, P f := by
  refine run_induction (P := fun u => ∀ f ∈ u.form.fields, P f) hs fun u e _ hu f hf => ?_
  rw [step] at hf
  cases ht : u.apply e with
  | ok t =>
    rw [ht] at hf
    rcases mem_apply_fields ht hf with (hold | hnew) | ⟨entry, position, rfl⟩
    · exact hu f hold
    · exact hsound f hnew
    · exact hread entry position
  | error _ =>
    rw [ht] at hf
    exact hu f hf

theorem run_bounded (edits : List Edit) :
    ∀ f ∈ (({} : EditorState).run edits).form.fields, f.Bounded :=
  run_forall_fields (by simp) (fun _ h => ⟨h.lengths, h.bounds, h.rows⟩)
    Exchange.Entry.toField_bounded edits

theorem removeOption_eq_updateField (h : (s.form.fields.map Field.id).Nodup)
    (hf : f ∈ s.form.fields) {index : Nat} (hindex : index < f.optionList.length) :
    s.removeOption f.id index =
      s.updateField { f with options := some (f.optionList.eraseIdx index) } := by
  have hfield : s.form.field? f.id = some f := (Form.field?_eq_some_iff h).mpr ⟨hf, rfl⟩
  simp [removeOption, hfield, hindex]

/-- However a state is reached, an option of a field can be taken out exactly when the field has a
name that is an identifier and its own, and no options are left that repeat a value or that the field
must not have. Then just this option is gone, and else the error is one that the form would have
without the option. As long as nothing is imported, it can always be taken out. -/
theorem run_removeOption_iff (edits : List Edit)
    (hf : f ∈ (({} : EditorState).run edits).form.fields) {index : Nat}
    (hindex : index < f.optionList.length) :
    let s := ({} : EditorState).run edits
    let rest := f.optionList.eraseIdx index
    let form := s.form.replace { f with options := some rest }
    ((∃ t, s.removeOption f.id index = .ok t) ↔
      MatchesIdentifier f.name ∧ (∀ g ∈ s.form.fields, g.id ≠ f.id → g.name ≠ f.name) ∧
        (rest ≠ [] → f.kind.isChoice = true) ∧ (rest.map FieldOption.value).Nodup) ∧
    (∀ t, s.removeOption f.id index = .ok t → t = { s with form := form }) ∧
    (∀ why, s.removeOption f.id index = .error why →
      ∃ issue ∈ form.check, why = .definition issue) ∧
    ((∀ e ∈ edits, e.isImport = false) → ∃ t, s.removeOption f.id index = .ok t) := by
  intro s rest form
  have hids : s.form.fieldIds.Nodup := (run_numbered new_numbered edits).distinct
  have hremove := removeOption_eq_updateField hids hf hindex
  let less : Field := { f with options := some rest }
  have hless : ∃ g ∈ s.form.fields, g.id = less.id := ⟨f, hf, rfl⟩
  have hbounded : less.Bounded := by
    have h := run_bounded edits f hf
    exact ⟨h.lengths, h.bounds, h.rows⟩
  refine ⟨?_, ?_, ?_, fun hedits => ?_⟩
  · rw [hremove, exists_updateField_iff hless, hbounded.wellFormed_iff, isIdentifier_iff]
    constructor
    · rintro ⟨⟨hname, hchoice, hvalues⟩, hfree⟩
      exact ⟨hname, hfree, hchoice, hvalues⟩
    · rintro ⟨hname, hfree, hchoice, hvalues⟩
      exact ⟨⟨hname, hchoice, hvalues⟩, hfree⟩
  · rw [hremove]
    exact fun t ht => updateField_eq_replace hids ht
  · rw [hremove]
    exact fun why hwhy => updateField_reported hless hwhy
  · have hnew : ({} : EditorState).form.WellFormed := (Form.check_eq_nil_iff _).mp (by decide)
    have hsound : s.form.WellFormed := run_wellFormed hnew hedits
    exact (exists_removeOption_iff hsound f.id index).mpr ⟨f, hf, rfl, hindex⟩

/-- One of two options with the same value can be taken out, and then the values are distinct. -/
theorem run_removeOption_iff_repeated :
    let small : Json := .object [("label", .string "Small"), ("value", .string "s")]
    let entry : Exchange.Entry :=
      { name := "size", spec := { type := some "DropDown", defaultValues := [small, small] } }
    let edits : List Edit := [.importDocument { entries := [entry] }, .setName "Shirts"]
    let f := entry.toField 1
    let s := ({} : EditorState).run edits
    f ∈ s.form.fields ∧ 1 < f.optionList.length ∧ ∃ t, s.removeOption f.id 1 = .ok t ∧
      t.form.fields = [{ f with options := some [⟨"Small", "s"⟩] }] := by
  intro small entry edits f s
  have hf : f ∈ s.form.fields := by decide
  have hindex : 1 < f.optionList.length := by decide
  obtain ⟨hiff, hthen, _, _⟩ := run_removeOption_iff edits hf hindex
  have hname : MatchesIdentifier f.name := (isIdentifier_iff _).mp (by decide)
  obtain ⟨t, ht⟩ := hiff.mpr ⟨hname, by decide, by decide, by decide⟩
  refine ⟨hf, hindex, t, ht, ?_⟩
  rw [hthen t ht]
  decide

/-- The options of an imported field stay in it as long as its name is no identifier. -/
theorem imported_option_kept :
    let small : Json := .object [("label", .string "Small"), ("value", .string "s")]
    let entry : Exchange.Entry :=
      { name := "shirt-size", spec := { type := some "DropDown", defaultValues := [small] } }
    let s := ({} : EditorState).run [.importDocument { entries := [entry] }]
    let f := entry.toField 1
    f ∈ s.form.fields ∧ f.id = "element-1" ∧ 0 < f.optionList.length ∧
      s.removeOption "element-1" 0 =
        .error (.definition (.invalidName "element-1" "shirt-size")) := by
  decide

end EditorState

end FormCompiler
