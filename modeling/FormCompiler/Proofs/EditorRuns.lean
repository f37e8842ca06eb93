import FormCompiler.Proofs.EditorSteps
import FormCompiler.Proofs.FreshNumber
import Mathlib.Data.List.Perm.Basic

/-! Edits other than an import keep a form well-formed, and so do runs of them. An edit puts at
most one field among the others, so it is enough to compare that field with the rest. -/

namespace FormCompiler

namespace Form.WellFormed

theorem perm {form : Form} {fields : List Field} (h : form.WellFormed)
    (hp : fields.Perm form.fields) : { form with fields := fields }.WellFormed where
  named := h.named
  ids := (hp.map Field.id).nodup_iff.mpr h.ids
  names := (hp.map Field.name).nodup_iff.mpr h.names
  sound f hf := h.sound f (hp.mem_iff.mp hf)

theorem sublist {form : Form} {fields : List Field} (h : form.WellFormed)
    (hs : fields.Sublist form.fields) : { form with fields := fields }.WellFormed where
  named := h.named
  ids := h.ids.sublist (hs.map Field.id)
  names := h.names.sublist (hs.map Field.name)
  sound f hf := h.sound f (hs.subset hf)

theorem cons {form : Form} {f : Field} (h : form.WellFormed) (hf : f.WellFormed)
    (hid : f.id ∉ form.fields.map Field.id) (hname : f.name ∉ form.fields.map Field.name) :
    { form with fields := f :: form.fields }.WellFormed where
  named := h.named
  ids := List.nodup_cons.mpr ⟨hid, h.ids⟩
  names := List.nodup_cons.mpr ⟨hname, h.names⟩
  sound := List.forall_mem_cons.mpr ⟨hf, h.sound⟩

end Form.WellFormed

theorem isIdentifier_numbered (kind : FieldKind) (n : Nat) :
    isIdentifier (kind.identifier ++ toString n) = true := by
  have hd : ∀ c ∈ Nat.toDigits 10 n, c.isAlphanum = true := by
    intro c hc
    simp [Char.isAlphanum, Text.isDigit_of_mem_toDigits hc]
  have hall : (Nat.toDigits 10 n).all (fun c => c.isAlphanum || c == '_' || c == '$') = true := by
    rw [List.all_eq_true]
    intro c hc
    simp [hd c hc]
  cases kind <;> simp [isIdentifier, FieldKind.identifier, FieldKind.name, hall]

theorem Field.withDefaults_wellFormed (kind : FieldKind) (n : Nat) :
    (Field.withDefaults kind n).WellFormed where
  identifier := isIdentifier_numbered kind n
  choice h := by
    cases hc : kind.isChoice with
    | true => exact hc
    | false => simp [Field.withDefaults, Field.optionList, hc] at h
  values := by cases hc : kind.isChoice <;> simp [Field.withDefaults, Field.optionList, hc]
  lengths := by simp [Field.withDefaults]
  bounds := by simp [Field.withDefaults]
  rows := by simp [Field.withDefaults]

/-- An edit that takes the fields from a document. -/
def Edit.isImport : Edit → Bool
  | .importDocument _ => true
  | _ => false

namespace EditorState

variable {s t : EditorState}

theorem addField_wellFormed (h : s.form.WellFormed) (kind : FieldKind) :
    (s.addField kind).2.form.WellFormed := by
  obtain ⟨_, hid, hname⟩ := s.nextNumber_spec kind
  have hcons := h.cons (Field.withDefaults_wellFormed kind (s.nextNumber kind)) hid hname
  exact hcons.perm (List.perm_append_singleton _ _)

/-- Up to order, the new field stands before the rest of the fields. -/
theorem updateField_wellFormed {f : Field} (h : s.form.WellFormed)
    (ht : s.updateField f = .ok t) : t.form.WellFormed := by
  obtain ⟨index, hpos, hf, hfree, rfl⟩ := updateField_eq_ok_iff.mp ht
  obtain ⟨hlt, hid⟩ := Form.position?_eq_some hpos
  let rest := s.form.fields.eraseIdx index
  have hrest : rest.Sublist s.form.fields := List.eraseIdx_sublist ..
  have hother : ∀ g ∈ rest, g.id ≠ f.id := by
    have hperm := (List.getElem_cons_eraseIdx_perm hlt).map Field.id
    have hnd := List.nodup_cons.mp (hperm.nodup_iff.mpr h.ids)
    rw [hid] at hnd
    exact fun g hg he => hnd.1 (he ▸ List.mem_map_of_mem hg)
  have hcons := (h.sublist hrest).cons hf
    (by
      intro hm
      obtain ⟨g, hg, he⟩ := List.mem_map.mp hm
      exact hother g hg he)
    (by
      intro hm
      obtain ⟨g, hg, he⟩ := List.mem_map.mp hm
      exact hfree g (hrest.subset hg) (hother g hg) he)
  exact hcons.perm (List.set_perm_cons_eraseIdx hlt f)

/-- Where the field goes in is no further than the end of the others. -/
theorem moveField_target_le {source target : Nat} (ht : s.moveField source target = .ok t) :
    target ≤ (s.form.fields.eraseIdx source).length := by
  obtain ⟨f, hf, hlt, _⟩ := moveField_eq_ok_iff.mp ht
  obtain ⟨hs, _⟩ := List.getElem?_eq_some_iff.mp hf
  rw [List.length_eraseIdx_of_lt hs]
  omega

theorem moveField_perm {source target : Nat} (ht : s.moveField source target = .ok t) :
    t.form.fields.Perm s.form.fields := by
  have hle := moveField_target_le ht
  obtain ⟨f, hf, _, rfl⟩ := moveField_eq_ok_iff.mp ht
  obtain ⟨hs, rfl⟩ := List.getElem?_eq_some_iff.mp hf
  exact (List.perm_insertIdx _ _ hle).trans (List.getElem_cons_eraseIdx_perm hs)

theorem moveField_wellFormed {source target : Nat} (h : s.form.WellFormed)
    (ht : s.moveField source target = .ok t) : t.form.WellFormed := by
  have hperm := moveField_perm ht
  obtain ⟨f, _, _, rfl⟩ := moveField_eq_ok_iff.mp ht
  exact h.perm hperm

/-- The step lemma: whatever an edit other than an import does, it keeps the form well-formed. -/
theorem apply_wellFormed {e : Edit} (h : s.form.WellFormed) (he : e.isImport = false)
    (ht : s.apply e = .ok t) : t.form.WellFormed := by
  cases e with
  | addField kind =>
    obtain rfl := Except.ok.inj ht
    exact addField_wellFormed h kind
  | updateField f => exact updateField_wellFormed h ht
  | removeField id =>
    obtain ⟨index, _, rfl⟩ := removeField_eq_ok_iff.mp ht
    exact h.sublist (List.eraseIdx_sublist ..)
  | moveField source target => exact moveField_wellFormed h ht
  | setLayout layout =>
    obtain rfl := Except.ok.inj ht
    exact ⟨h.named, h.ids, h.names, h.sound⟩
  | setName name =>
    obtain ⟨hname, rfl⟩ := setName_eq_ok_iff.mp ht
    exact ⟨hname, h.ids, h.names, h.sound⟩
  | addOption id option =>
    obtain ⟨_, _, f, _, hu⟩ := addOption_eq_ok_iff.mp ht
    exact updateField_wellFormed h hu
  | removeOption id index =>
    obtain ⟨f, _, _, hu⟩ := removeOption_eq_ok_iff.mp ht
    exact updateField_wellFormed h hu
  | clear =>
    obtain rfl := Except.ok.inj ht
    exact h.sublist (List.nil_sublist _)
  | importDocument d => simp [Edit.isImport] at he

theorem step_wellFormed {e : Edit} (h : s.form.WellFormed) (he : e.isImport = false) :
    (s.step e).form.WellFormed := by
  rw [step]
  cases ht : s.apply e with
  | ok t => exact apply_wellFormed h he ht
  | error _ => exact h

theorem run_wellFormed {edits : List Edit} (h : s.form.WellFormed)
    (he : ∀ e ∈ edits, e.isImport = false) : (s.run edits).form.WellFormed :=
  run_induction (P := fun u => u.form.WellFormed) h
    fun _ e hmem hu => step_wellFormed hu (he e hmem)

/-- Whoever starts from a new form or from one without issues, and imports nothing, never comes
upon a form with issues, however the edits follow each other and whichever of them fail. -/
theorem run_take_check {start : EditorState} {edits : List Edit}
    (hstart : start = {} ∨ ∃ form : Form, form.check = [] ∧ start = ofForm form)
    (hedits : ∀ e ∈ edits, e.isImport = false) (n : Nat) :
    (start.run (edits.take n)).form.check = [] := by
  have h : start.form.WellFormed := by
    rw [← Form.check_eq_nil_iff]
    rcases hstart with rfl | ⟨form, hform, rfl⟩
    · decide
    · exact hform
  exact (Form.check_eq_nil_iff _).mpr
    (run_wellFormed h fun e he => hedits e (List.mem_of_mem_take he))

/-- A field takes the name that the next new one would have had, and its neighbour repeats an
option value in vain. -/
theorem run_take_check_clash :
    (({} : EditorState).run ([.addField .select,
      .updateField { id := "element-1", kind := .text, label := "", name := "text2" },
      .addField .text, .addField .radio, .addOption "element-4" ⟨"One", "option1"⟩,
      .moveField 2 0].take 6)).form.check = [] :=
  run_take_check (Or.inl rfl) (by decide) 6

end EditorState

end FormCompiler
