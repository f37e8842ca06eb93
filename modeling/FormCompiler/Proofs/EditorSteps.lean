import FormCompiler.Editor.Edit
import FormCompiler.Proofs.WellFormed

/-! What each edit does when it succeeds, and exactly when it does. Later modules reason from these
statements and no longer open the edits. -/

namespace FormCompiler

theorem Form.position?_eq_some {form : Form} {id : String} {index : Nat}
    (h : form.position? id = some index) :
    ∃ hlt : index < form.fields.length, form.fields[index].id = id := by
  obtain ⟨hlt, hid, _⟩ := List.findIdx?_eq_some_iff_getElem.mp h
  exact ⟨hlt, by simpa using hid⟩

namespace EditorState

variable {s t : EditorState}

theorem updateField_eq_ok_iff {f : Field} :
    s.updateField f = .ok t ↔ ∃ index, s.form.position? f.id = some index ∧ f.WellFormed ∧
      (∀ g ∈ s.form.fields, g.id ≠ f.id → g.name ≠ f.name) ∧
      t = s.withFields (s.form.fields.set index f) := by
  rw [updateField]
  cases hp : s.form.position? f.id with
  | none => simp
  | some index =>
    cases hi : f.issues with
    | cons issue rest =>
      have hnot : ¬ f.WellFormed := by simp [← Field.issues_eq_nil_iff, hi]
      simp [hnot]
    | nil =>
      have hsound := f.issues_eq_nil_iff.mp hi
      by_cases hc : ∃ g ∈ s.form.fields, g.id ≠ f.id ∧ g.name = f.name
      · have hany : (s.form.fields.any fun g => g.id != f.id && g.name == f.name) = true := by
          simpa using hc
        obtain ⟨g, hg, hid, hname⟩ := hc
        simp only [hany, if_true, reduceCtorEq, false_iff]
        rintro ⟨_, _, _, hfree, _⟩
        exact hfree g hg hid hname
      · have hany : (s.form.fields.any fun g => g.id != f.id && g.name == f.name) = false := by
          simpa using hc
        have hfree : ∀ g ∈ s.form.fields, g.id ≠ f.id → g.name ≠ f.name :=
          fun g hg hid hname => hc ⟨g, hg, hid, hname⟩
        simp only [hany, Bool.false_eq_true, if_false, Except.ok.injEq, Option.some.injEq]
        constructor
        · rintro rfl
          exact ⟨index, rfl, hsound, hfree, rfl⟩
        · rintro ⟨_, rfl, _, _, rfl⟩
          rfl

theorem updateField_eq_error {f : Field} {why : EditError} (h : s.updateField f = .error why) :
    s.form.position? f.id = none ∧ why = .unknownField f.id ∨
      (∃ issue ∈ f.issues, why = .definition issue) ∨
      f.WellFormed ∧ (∃ g ∈ s.form.fields, g.id ≠ f.id ∧ g.name = f.name) ∧
        why = .definition (.duplicateName f.name) := by
  rw [updateField] at h
  cases hp : s.form.position? f.id with
  | none =>
    rw [hp] at h
    exact Or.inl ⟨rfl, (Except.error.inj h).symm⟩
  | some index =>
    rw [hp] at h
    cases hi : f.issues with
    | cons issue rest =>
      simp only [hi, Except.error.injEq] at h
      exact Or.inr (Or.inl ⟨issue, by simp, h.symm⟩)
    | nil =>
      simp only [hi] at h
      split at h
      · next hc =>
        have hclash : ∃ g ∈ s.form.fields, g.id ≠ f.id ∧ g.name = f.name := by simpa using hc
        exact Or.inr (Or.inr ⟨f.issues_eq_nil_iff.mp hi, hclash, (Except.error.inj h).symm⟩)
      · simp at h

theorem removeField_eq_ok_iff {id : String} :
    s.removeField id = .ok t ↔ ∃ index, s.form.position? id = some index ∧
      t = s.withFields (s.form.fields.eraseIdx index) := by
  rw [removeField]
  cases s.form.position? id <;> simp [eq_comm]

theorem moveField_eq_ok_iff {source target : Nat} :
    s.moveField source target = .ok t ↔ ∃ f, s.form.fields[source]? = some f ∧
      target < s.form.fields.length ∧
      t = s.withFields ((s.form.fields.eraseIdx source).insertIdx target f) := by
  simp only [moveField]
  cases s.form.fields[source]? with
  | none => simp
  | some f => by_cases ht : target < s.form.fields.length <;> simp [ht, eq_comm]

theorem setName_eq_ok_iff {name : String} :
    s.setName name = .ok t ↔ Text.allBlank name = false ∧
      t = { s with form := { s.form with name := name } } := by
  cases hb : Text.allBlank name <;> simp [setName, hb, eq_comm]

theorem addOption_eq_ok_iff {id : String} {option : FieldOption} :
    s.addOption id option = .ok t ↔ option.label ≠ "" ∧ option.value ≠ "" ∧
      ∃ f, s.form.field? id = some f ∧
        s.updateField { f with options := some (f.optionList ++ [option]) } = .ok t := by
  rw [addOption]
  by_cases he : option.label = "" ∨ option.value = ""
  · rcases he with he | he <;> simp [he]
  · rw [not_or] at he
    cases s.form.field? id <;> simp [he]

theorem removeOption_eq_ok_iff {id : String} {index : Nat} :
    s.removeOption id index = .ok t ↔ ∃ f, s.form.field? id = some f ∧
      index < f.optionList.length ∧
      s.updateField { f with options := some (f.optionList.eraseIdx index) } = .ok t := by
  rw [removeOption]
  cases s.form.field? id with
  | none => simp
  | some f => by_cases hi : index < f.optionList.length <;> simp [hi]

/-- What each edit of a run keeps, the run keeps. -/
theorem run_induction {P : EditorState → Prop} {edits : List Edit} (hs : P s)
    (hstep : ∀ u, ∀ e ∈ edits, P u → P (u.step e)) : P (s.run edits) := by
  induction edits generalizing s with
  | nil => exact hs
  | cons e rest ih =>
    exact ih (hstep s e (by simp) hs) fun u e' he' => hstep u e' (List.mem_cons_of_mem e he')

end EditorState

end FormCompiler
