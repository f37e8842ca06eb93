import FormCompiler.Proofs.EditorRuns

/-! The guards of the editor agree with the check of whole forms. An edit of a form without issues
looks only at the field that it changes, and yet it is refused exactly when the changed form would
have an issue, and with an issue of that form. -/

namespace FormCompiler

namespace Form

/-- The form with a field in place of the one that has its id. -/
def replace (form : Form) (f : Field) : Form :=
  { form with fields := form.fields.map fun g => if g.id = f.id then f else g }

variable {form : Form} {f g : Field}

theorem mem_replace_self (h : ∃ g ∈ form.fields, g.id = f.id) : f ∈ (form.replace f).fields := by
  obtain ⟨g, hg, hid⟩ := h
  exact List.mem_map.mpr ⟨g, hg, if_pos hid⟩

theorem mem_replace_of_ne (hg : g ∈ form.fields) (hid : g.id ≠ f.id) :
    g ∈ (form.replace f).fields :=
  List.mem_map.mpr ⟨g, hg, if_neg hid⟩

theorem set_eq_replace (h : (form.fields.map Field.id).Nodup) {index : Nat}
    (hpos : form.position? f.id = some index) :
    form.fields.set index f = (form.replace f).fields := by
  obtain ⟨hlt, hid⟩ := position?_eq_some hpos
  apply List.ext_getElem
  · simp [replace]
  · intro i hi hi'
    have hindex : index < (form.fields.map Field.id).length := by simpa using hlt
    have hlt' : i < form.fields.length := by simpa using hi
    have hi : i < (form.fields.map Field.id).length := by simpa using hlt'
    have hinj : (form.fields.map Field.id)[i] = (form.fields.map Field.id)[index] ↔ i = index :=
      h.getElem_inj_iff
    have hsame : form.fields[i].id = f.id ↔ index = i := by
      simpa [hid, eq_comm] using hinj
    simp only [List.getElem_set, replace, List.getElem_map, hsame]

theorem position?_of_mem (h : ∃ g ∈ form.fields, g.id = f.id) :
    ∃ index, form.position? f.id = some index := by
  rw [← Option.isSome_iff_exists, position?, List.findIdx?_isSome]
  simpa using h

theorem field?_eq_some_iff (h : (form.fields.map Field.id).Nodup) {id : String} :
    form.field? id = some f ↔ f ∈ form.fields ∧ f.id = id := by
  constructor
  · intro hf
    exact ⟨List.mem_of_find?_eq_some hf, by simpa using List.find?_some hf⟩
  · rintro ⟨hf, rfl⟩
    rw [field?]
    cases hg : form.fields.find? fun g => g.id == f.id with
    | none => simpa using List.find?_eq_none.mp hg f hf
    | some g =>
      have hid : g.id = f.id := by simpa using List.find?_some hg
      rw [List.inj_on_of_nodup_map h (List.mem_of_find?_eq_some hg) hf hid]

end Form

namespace EditorState

/-- The outcome of an edit that is refused exactly when the state it aims at has a form with
issues, and then with one of them. -/
structure Guarded (outcome : Except EditError EditorState) (aim : EditorState) : Prop where
  accepted_iff : (∃ t, outcome = .ok t) ↔ aim.form.check = []
  reached : ∀ t, outcome = .ok t → t = aim
  reported : ∀ why, outcome = .error why → ∃ issue ∈ aim.form.check, why = .definition issue

variable {s : EditorState} {f : Field}

theorem exists_updateField_iff (hf : ∃ g ∈ s.form.fields, g.id = f.id) :
    (∃ t, s.updateField f = .ok t) ↔
      f.WellFormed ∧ ∀ g ∈ s.form.fields, g.id ≠ f.id → g.name ≠ f.name := by
  obtain ⟨index, hpos⟩ := Form.position?_of_mem hf
  simp only [updateField_eq_ok_iff]
  constructor
  · rintro ⟨_, _, _, hsound, hfree, _⟩
    exact ⟨hsound, hfree⟩
  · rintro ⟨hsound, hfree⟩
    exact ⟨_, index, hpos, hsound, hfree, rfl⟩

theorem updateField_eq_replace (h : (s.form.fields.map Field.id).Nodup) {t : EditorState}
    (ht : s.updateField f = .ok t) : t = { s with form := s.form.replace f } := by
  obtain ⟨index, hpos, _, _, rfl⟩ := updateField_eq_ok_iff.mp ht
  rw [Form.set_eq_replace h hpos]
  rfl

theorem updateField_reported (hf : ∃ g ∈ s.form.fields, g.id = f.id) {why : EditError}
    (hwhy : s.updateField f = .error why) :
    ∃ issue ∈ (s.form.replace f).check, why = .definition issue := by
  have hself := Form.mem_replace_self hf
  rcases updateField_eq_error hwhy with ⟨hnone, _⟩ | ⟨issue, hissue, he⟩ | ⟨hsound, hclash, he⟩
  · obtain ⟨index, hpos⟩ := Form.position?_of_mem hf
    simp [hpos] at hnone
  · exact ⟨issue, Form.mem_check hself hissue, he⟩
  · obtain ⟨g, hg, hid, hname⟩ := hclash
    have hother := Form.mem_replace_of_ne hg hid
    have hne : f ≠ g := fun hfg => hid (hfg ▸ rfl)
    exact ⟨_, Form.duplicateName_mem_check hself hother hne hname.symm hsound.name_ne_empty, he⟩

/-- A neighbour with the name of the new field would repeat it in the changed form. -/
theorem updateField_guarded (h : s.form.WellFormed) (hf : ∃ g ∈ s.form.fields, g.id = f.id) :
    Guarded (s.updateField f) { s with form := s.form.replace f } where
  accepted_iff := by
    constructor
    · rintro ⟨t, ht⟩
      rw [← updateField_eq_replace h.ids ht]
      exact (Form.check_eq_nil_iff _).mpr (updateField_wellFormed h ht)
    · intro hcheck
      have hsound := (Form.check_eq_nil_iff _).mp hcheck
      have hself := Form.mem_replace_self hf
      refine (exists_updateField_iff hf).mpr ⟨hsound.sound f hself, fun g hg hid hname => hid ?_⟩
      have hother := Form.mem_replace_of_ne hg hid
      rw [List.inj_on_of_nodup_map hsound.names hother hself hname]
  reached t ht := updateField_eq_replace h.ids ht
  reported why hwhy := updateField_reported hf hwhy

theorem setName_guarded (h : s.form.WellFormed) (name : String) :
    Guarded (s.setName name) { s with form := { s.form with name := name } } := by
  cases hb : Text.allBlank name with
  | false =>
    have hsound : { s.form with name := name }.WellFormed := ⟨hb, h.ids, h.names, h.sound⟩
    constructor <;> simp [setName, hb, (Form.check_eq_nil_iff _).mpr hsound]
  | true => constructor <;> simp [setName, hb, Form.check]

theorem addOption_guarded (h : s.form.WellFormed) (hf : f ∈ s.form.fields) {option : FieldOption}
    (hlabel : option.label ≠ "") (hvalue : option.value ≠ "") :
    Guarded (s.addOption f.id option)
      { s with form := s.form.replace { f with options := some (f.optionList ++ [option]) } } := by
  have hupdate : s.addOption f.id option =
      s.updateField { f with options := some (f.optionList ++ [option]) } := by
    simp [addOption, hlabel, hvalue, (Form.field?_eq_some_iff h.ids).mpr ⟨hf, rfl⟩]
  rw [hupdate]
  exact updateField_guarded h ⟨f, hf, rfl⟩

theorem exists_removeOption_iff (h : s.form.WellFormed) (id : String) (index : Nat) :
    (∃ t, s.removeOption id index = .ok t) ↔
      ∃ f ∈ s.form.fields, f.id = id ∧ index < f.optionList.length := by
  simp only [removeOption_eq_ok_iff, Form.field?_eq_some_iff h.ids]
  constructor
  · rintro ⟨t, f, ⟨hf, hid⟩, hlt, _⟩
    exact ⟨f, hf, hid, hlt⟩
  · rintro ⟨f, hf, hid, hlt⟩
    let g := { f with options := some (f.optionList.eraseIdx index) }
    have hsound := h.sound f hf
    have hg : g.WellFormed :=
      { hsound with
        choice := fun _ => hsound.choice (List.ne_nil_of_length_pos (by omega))
        values := hsound.values.sublist ((List.eraseIdx_sublist _ _).map _) }
    have hfree : ∀ other ∈ s.form.fields, other.id ≠ g.id → other.name ≠ g.name := by
      intro other hother hne hname
      exact hne (List.inj_on_of_nodup_map h.names hother hf hname ▸ rfl)
    obtain ⟨t, ht⟩ := (exists_updateField_iff (f := g) ⟨f, hf, rfl⟩).mpr ⟨hg, hfree⟩
    exact ⟨t, f, ⟨hf, hid⟩, hlt, ht⟩

/-- Where a form has no issues, an edit of a field, of the name or of the options is refused
exactly when it would bring one in, and an option that exists can always be removed. -/
theorem guards_agree_with_check (h : s.form.check = []) :
    (∀ f : Field, (∃ g ∈ s.form.fields, g.id = f.id) →
      Guarded (s.updateField f) { s with form := s.form.replace f }) ∧
    (∀ name, Guarded (s.setName name) { s with form := { s.form with name := name } }) ∧
    (∀ f ∈ s.form.fields, ∀ option : FieldOption, option.label ≠ "" → option.value ≠ "" →
      Guarded (s.addOption f.id option)
        { s with
          form := s.form.replace { f with options := some (f.optionList ++ [option]) } }) ∧
    ∀ id index, (∃ t, s.removeOption id index = .ok t) ↔
      ∃ f ∈ s.form.fields, f.id = id ∧ index < f.optionList.length := by
  have hsound := (Form.check_eq_nil_iff _).mp h
  exact ⟨fun f hf => updateField_guarded hsound hf, setName_guarded hsound,
    fun f hf option hlabel hvalue => addOption_guarded hsound hf hlabel hvalue,
    exists_removeOption_iff hsound⟩

/-- A field that takes the name of another is refused, and so is an option with the value of an
earlier one. -/
theorem guards_agree_with_check_clash :
    let choice := Field.withDefaults .select 1
    let text := Field.withDefaults .text 2
    let s := ofForm { fields := [choice, text] }
    let renamed := { text with name := "select1" }
    let more := { choice with options := some (choice.optionList ++ [⟨"One", "option1"⟩]) }
    s.form.check = [] ∧ (s.form.replace renamed).check ≠ [] ∧ (s.form.replace more).check ≠ [] ∧
    (¬ ∃ t, s.updateField renamed = .ok t) ∧
    (¬ ∃ t, s.addOption choice.id ⟨"One", "option1"⟩ = .ok t) ∧
    ∃ t, s.removeOption choice.id 1 = .ok t := by
  intro choice text s renamed more
  have hcheck : s.form.check = [] := by decide
  have hrenamed : (s.form.replace renamed).check ≠ [] := by decide
  have hmore : (s.form.replace more).check ≠ [] := by decide
  obtain ⟨hupdate, _, hadd, hremove⟩ := guards_agree_with_check hcheck
  have htext := hupdate renamed ⟨text, by simp [s, ofForm], rfl⟩
  have hoption := hadd choice (by simp [s, ofForm]) ⟨"One", "option1"⟩ (by decide) (by decide)
  exact ⟨hcheck, hrenamed, hmore, fun h => hrenamed (htext.accepted_iff.mp h),
    fun h => hmore (hoption.accepted_iff.mp h),
    (hremove choice.id 1).mpr ⟨choice, by simp [s, ofForm], rfl, by decide⟩⟩

end EditorState

end FormCompiler
