import FormCompiler.Proofs.EditorIds

/-! Edits of different fields. An edit of a field leaves the ids of the form as they are, so that
each edit finds its field in the same place before and after the other. An edit of options compares
nothing of the other fields but ids and names, and so it does not matter to it what became of their
options. -/

namespace FormCompiler

namespace Form

/-- What an edit of a field compares with the other fields. -/
def keys (form : Form) : List (String × String) := form.fields.map fun f => (f.id, f.name)

theorem position?_eq_of_fieldIds {form other : Form} (h : form.fieldIds = other.fieldIds)
    (id : String) : form.position? id = other.position? id := by
  have hids (form : Form) : form.position? id = form.fieldIds.findIdx? (· == id) := by
    rw [fieldIds, List.findIdx?_map]
    rfl
  rw [hids, hids, h]

theorem fieldIds_eq_of_keys {form other : Form} (h : form.keys = other.keys) :
    form.fieldIds = other.fieldIds := by
  have hfst (form : Form) : form.fieldIds = form.keys.map Prod.fst := by simp [fieldIds, keys]
  rw [hfst, hfst, h]

theorem field?_eq_some_iff_position? {form : Form} {id : String} {f : Field} :
    form.field? id = some f ↔
      ∃ index, form.position? id = some index ∧ form.fields[index]? = some f := by
  rw [field?, List.find?_eq_bind_findIdx?_getElem?, Option.bind_eq_some_iff]
  rfl

end Form

/-- The field of which an edit changes the options. -/
def Edit.optionsOf? : Edit → Option String
  | .addOption id _ | .removeOption id _ => some id
  | _ => none

/-- The options that an edit leaves to a field, if it does not refuse them. -/
def Edit.revised? : Edit → Field → Option (List FieldOption)
  | .addOption _ option, f =>
    if option.label = "" ∨ option.value = "" then none else some (f.optionList ++ [option])
  | .removeOption _ index, f =>
    if index < f.optionList.length then some (f.optionList.eraseIdx index) else none
  | _, _ => none

def Field.withOptions (f : Field) (options : List FieldOption) : Field :=
  { f with options := some options }

namespace EditorState

variable {s t u : EditorState} {d e : Edit} {f g : Field}

/-- The outcome of two edits, one after the other. -/
def applyBoth (s : EditorState) (first second : Edit) : Except EditError EditorState := do
  let t ← s.apply first
  t.apply second

theorem applyBoth_eq_ok_iff :
    s.applyBoth d e = .ok u ↔ ∃ t, s.apply d = .ok t ∧ t.apply e = .ok u := by
  rw [applyBoth]
  cases s.apply d with
  | error why => simp [bind, Except.bind]
  | ok t => simp [bind, Except.bind]

/-- The state with a field in the place of another. -/
def put (s : EditorState) (index : Nat) (f : Field) : EditorState :=
  s.withFields (s.form.fields.set index f)

theorem put_comm {i j : Nat} (h : i ≠ j) : (s.put i f).put j g = (s.put j g).put i f := by
  simp only [put, withFields, List.set_comm f g h]

theorem put_getElem? {i j : Nat} (h : i ≠ j) :
    (s.put i f).form.fields[j]? = s.form.fields[j]? :=
  List.getElem?_set_ne h

/-! ## Updates -/

theorem exists_put_of_updateField (ht : s.updateField f = .ok t) :
    ∃ index, s.form.position? f.id = some index ∧ t = s.put index f := by
  obtain ⟨index, hpos, _, _, rfl⟩ := updateField_eq_ok_iff.mp ht
  exact ⟨index, hpos, rfl⟩

theorem position?_ne (hid : f.id ≠ g.id) {i j : Nat} (hi : s.form.position? f.id = some i)
    (hj : s.form.position? g.id = some j) : i ≠ j := by
  rintro rfl
  obtain ⟨_, hf⟩ := Form.position?_eq_some hi
  obtain ⟨_, hg⟩ := Form.position?_eq_some hj
  exact hid (hf.symm.trans hg)

theorem exists_put_of_updates (hid : f.id ≠ g.id)
    (hu : s.applyBoth (.updateField f) (.updateField g) = .ok u) :
    ∃ i j, s.form.position? f.id = some i ∧ s.form.position? g.id = some j ∧ i ≠ j ∧
      u = (s.put i f).put j g := by
  obtain ⟨t, ht, hu⟩ := applyBoth_eq_ok_iff.mp hu
  have hids := updateField_fieldIds ht
  obtain ⟨i, hi, rfl⟩ := exists_put_of_updateField ht
  obtain ⟨j, hj, rfl⟩ := exists_put_of_updateField hu
  rw [Form.position?_eq_of_fieldIds hids] at hj
  exact ⟨i, j, hi, hj, position?_ne hid hi hj, rfl⟩

/-! ## Edits of options -/

/-- The edit gives new options to the field at an index, and the editor takes the field with them. -/
structure Revises (s : EditorState) (e : Edit) (index : Nat) (f : Field)
    (options : List FieldOption) : Prop where
  target : e.optionsOf? = some f.id
  place : s.form.position? f.id = some index
  field : s.form.fields[index]? = some f
  revised : e.revised? f = some options
  sound : (f.withOptions options).WellFormed
  free : ∀ key ∈ s.form.keys, key.1 ≠ f.id → key.2 ≠ f.name

theorem apply_eq_ok_iff_updateField {id : String} (he : e.optionsOf? = some id) :
    s.apply e = .ok t ↔ ∃ f, s.form.field? id = some f ∧
      ∃ options, e.revised? f = some options ∧ s.updateField (f.withOptions options) = .ok t := by
  cases e with
  | addOption own option =>
    obtain rfl : own = id := by simpa [Edit.optionsOf?] using he
    have hrevised (f : Field) (options : List FieldOption) :
        (Edit.addOption own option).revised? f = some options ↔
          option.label ≠ "" ∧ option.value ≠ "" ∧ f.optionList ++ [option] = options := by
      by_cases hempty : option.label = "" ∨ option.value = ""
      · rcases hempty with h | h <;> simp [Edit.revised?, h]
      · rw [not_or] at hempty
        simp [Edit.revised?, hempty]
    simp only [apply, addOption_eq_ok_iff, hrevised]
    constructor
    · rintro ⟨hlabel, hvalue, f, hf, ht⟩
      exact ⟨f, hf, _, ⟨hlabel, hvalue, rfl⟩, ht⟩
    · rintro ⟨f, hf, _, ⟨hlabel, hvalue, rfl⟩, ht⟩
      exact ⟨hlabel, hvalue, f, hf, ht⟩
  | removeOption own index =>
    obtain rfl : own = id := by simpa [Edit.optionsOf?] using he
    have hrevised (f : Field) (options : List FieldOption) :
        (Edit.removeOption own index).revised? f = some options ↔
          index < f.optionList.length ∧ f.optionList.eraseIdx index = options := by
      by_cases hlt : index < f.optionList.length <;> simp [Edit.revised?, hlt]
    simp only [apply, removeOption_eq_ok_iff, hrevised]
    constructor
    · rintro ⟨f, hf, hlt, ht⟩
      exact ⟨f, hf, _, ⟨hlt, rfl⟩, ht⟩
    · rintro ⟨f, hf, _, ⟨hlt, rfl⟩, ht⟩
      exact ⟨f, hf, hlt, ht⟩
  | _ => simp [Edit.optionsOf?] at he

theorem apply_eq_ok_iff_revises {id : String} (he : e.optionsOf? = some id) :
    s.apply e = .ok t ↔ ∃ index f options,
      s.Revises e index f options ∧ t = s.put index (f.withOptions options) := by
  rw [apply_eq_ok_iff_updateField he]
  simp only [Form.field?_eq_some_iff_position?, updateField_eq_ok_iff]
  constructor
  · rintro ⟨f, ⟨index, hpos, hf⟩, options, hrevised, place, hplace, hsound, hfree, rfl⟩
    obtain ⟨hlt, hid⟩ := Form.position?_eq_some hpos
    obtain rfl : f.id = id := by
      rw [← hid, (List.getElem?_eq_some_iff.mp hf).2]
    obtain rfl : place = index := Option.some.inj (hplace.symm.trans hpos)
    refine ⟨place, f, options, ⟨he, hpos, hf, hrevised, hsound, ?_⟩, rfl⟩
    simp only [Form.keys, List.forall_mem_map]
    exact hfree
  · rintro ⟨index, f, options, h, rfl⟩
    obtain rfl : f.id = id := Option.some.inj (h.target.symm.trans he)
    have hfree := h.free
    simp only [Form.keys, List.forall_mem_map] at hfree
    exact ⟨f, ⟨index, h.place, h.field⟩, options, h.revised, index, h.place, h.sound, hfree, rfl⟩

/-- Whatever options another field has, an edit of options is taken or refused alike. -/
theorem Revises.put_iff {i j : Nat} (hij : i ≠ j) {other : Field}
    (hother : s.form.fields[i]? = some other) {options more : List FieldOption} :
    (s.put i (other.withOptions more)).Revises e j f options ↔ s.Revises e j f options := by
  have hkeys : (s.put i (other.withOptions more)).form.keys = s.form.keys :=
    map_set_of_eq (fun f => (f.id, f.name)) hother rfl
  have hplace := Form.position?_eq_of_fieldIds (Form.fieldIds_eq_of_keys hkeys) f.id
  have hfield : (s.put i (other.withOptions more)).form.fields[j]? = s.form.fields[j]? :=
    put_getElem? hij
  constructor
  · rintro ⟨htarget, hpos, hf, hrevised, hsound, hfree⟩
    rw [hplace] at hpos
    rw [hfield] at hf
    rw [hkeys] at hfree
    exact ⟨htarget, hpos, hf, hrevised, hsound, hfree⟩
  · rintro ⟨htarget, hpos, hf, hrevised, hsound, hfree⟩
    rw [← hplace] at hpos
    rw [← hfield] at hf
    rw [← hkeys] at hfree
    exact ⟨htarget, hpos, hf, hrevised, hsound, hfree⟩

theorem applyBoth_options {a b : String} (hd : d.optionsOf? = some a) (he : e.optionsOf? = some b)
    (hab : a ≠ b) (hu : s.applyBoth d e = .ok u) : s.applyBoth e d = .ok u := by
  obtain ⟨t, ht, hu⟩ := applyBoth_eq_ok_iff.mp hu
  obtain ⟨i, f, options, hfirst, rfl⟩ := (apply_eq_ok_iff_revises hd).mp ht
  obtain ⟨j, g, more, hsecond, rfl⟩ := (apply_eq_ok_iff_revises he).mp hu
  have hf : f.id = a := Option.some.inj (hfirst.target.symm.trans hd)
  have hg : g.id = b := Option.some.inj (hsecond.target.symm.trans he)
  have hij : i ≠ j := by
    have hids : (s.put i (f.withOptions options)).form.fieldIds = s.form.fieldIds :=
      map_set_of_eq Field.id hfirst.field rfl
    have hplace := hsecond.place
    rw [Form.position?_eq_of_fieldIds hids] at hplace
    exact position?_ne (by rwa [hf, hg]) hfirst.place hplace
  have hearly : s.Revises e j g more := (Revises.put_iff hij hfirst.field).mp hsecond
  have hlate : (s.put j (g.withOptions more)).Revises d i f options :=
    (Revises.put_iff hij.symm hearly.field).mpr hfirst
  refine applyBoth_eq_ok_iff.mpr ⟨_, (apply_eq_ok_iff_revises he).mpr ⟨j, g, more, hearly, rfl⟩, ?_⟩
  exact (apply_eq_ok_iff_revises hd).mpr ⟨i, f, options, hlate, put_comm hij⟩

/-- Two updates of different fields give the same state in both orders, if both orders are taken. Of
two edits of the options of different fields one order is taken exactly when the other is. -/
theorem edits_of_fields_commute (s : EditorState) :
    (∀ f g : Field, f.id ≠ g.id → ∀ t u,
      s.applyBoth (.updateField f) (.updateField g) = .ok t →
      s.applyBoth (.updateField g) (.updateField f) = .ok u → t = u) ∧
    ∀ (d e : Edit) (a b : String), d.optionsOf? = some a → e.optionsOf? = some b → a ≠ b →
      ∀ t, s.applyBoth d e = .ok t ↔ s.applyBoth e d = .ok t := by
  constructor
  · intro f g hid t u ht hu
    obtain ⟨i, j, hi, hj, hij, rfl⟩ := exists_put_of_updates hid ht
    obtain ⟨j', i', hj', hi', _, rfl⟩ := exists_put_of_updates hid.symm hu
    obtain rfl : i = i' := Option.some.inj (hi.symm.trans hi')
    obtain rfl : j = j' := Option.some.inj (hj.symm.trans hj')
    exact put_comm hij
  · intro d e a b hd he hab t
    exact ⟨applyBoth_options hd he hab, applyBoth_options he hd hab.symm⟩

/-- Two fields get new names, one of two choices gets an option and the other loses one. -/
theorem edits_of_fields_commute_choices :
    let color := Field.withDefaults .select 1
    let size := Field.withDefaults .radio 2
    let s := ofForm { fields := [color, size] }
    let f := { color with name := "color" }
    let g := { size with name := "size" }
    let d := Edit.addOption "element-1" ⟨"Red", "red"⟩
    let e := Edit.removeOption "element-2" 0
    f.id ≠ g.id ∧ d.optionsOf? = some "element-1" ∧ e.optionsOf? = some "element-2" ∧
      (∃ t, s.applyBoth (.updateField f) (.updateField g) = .ok t ∧
        s.applyBoth (.updateField g) (.updateField f) = .ok t) ∧
      ∃ t, s.applyBoth d e = .ok t ∧ s.applyBoth e d = .ok t := by
  intro color size s f g d e
  obtain ⟨hupdates, hoptions⟩ := edits_of_fields_commute s
  have hid : f.id ≠ g.id := by decide
  have hrenamed : s.applyBoth (.updateField f) (.updateField g) = .ok (s.withFields [f, g]) := by
    decide
  obtain ⟨t, ht⟩ : ∃ t, s.applyBoth (.updateField g) (.updateField f) = .ok t :=
    ⟨s.withFields [f, g], by decide⟩
  have hchosen : s.applyBoth d e = .ok (s.withFields
      [color.withOptions (color.optionList ++ [⟨"Red", "red"⟩]),
        size.withOptions [⟨"Option 2", "option2"⟩]]) := by
    decide
  have hsame := hupdates f g hid _ t hrenamed ht
  refine ⟨hid, rfl, rfl, ⟨t, hsame ▸ hrenamed, ht⟩, _, hchosen, ?_⟩
  exact (hoptions d e "element-1" "element-2" rfl rfl (by decide) _).mp hchosen

end EditorState

end FormCompiler
