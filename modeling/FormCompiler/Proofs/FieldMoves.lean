import FormCompiler.Proofs.EditorRuns

/-! Moves of fields. A move takes one field out and puts it back in elsewhere. Without that field the
list is the same before and after, so the others keep their order, and moving the field back restores
the state. -/

namespace FormCompiler.EditorState

variable {s t : EditorState} {source target : Nat}

theorem moveField_eq_error_iff {why : EditError} :
    s.moveField source target = .error why ↔
      (s.form.fields.length ≤ source ∨ s.form.fields.length ≤ target) ∧
        why = .moveOutOfRange source target s.form.fields.length := by
  simp only [moveField]
  cases hf : s.form.fields[source]? with
  | none =>
    have hle : s.form.fields.length ≤ source := List.getElem?_eq_none_iff.mp hf
    simp [hle, eq_comm]
  | some f =>
    have hlt : ¬ s.form.fields.length ≤ source := by
      simpa using (List.getElem?_eq_some_iff.mp hf).1
    by_cases ht : target < s.form.fields.length
    · have hnot : ¬ s.form.fields.length ≤ target := by omega
      simp [ht, hlt, hnot]
    · have hle : s.form.fields.length ≤ target := by omega
      simp [ht, hle, eq_comm]

theorem moveField_getElem? (ht : s.moveField source target = .ok t) :
    t.form.fields[target]? = s.form.fields[source]? := by
  have hle := moveField_target_le ht
  obtain ⟨f, hf, _, rfl⟩ := moveField_eq_ok_iff.mp ht
  have hself : ((s.form.fields.eraseIdx source).insertIdx target f)[target]? = some f := by
    simp [List.getElem?_insertIdx_self, hle]
  exact hself.trans hf.symm

theorem moveField_eraseIdx (ht : s.moveField source target = .ok t) :
    t.form.fields.eraseIdx target = s.form.fields.eraseIdx source := by
  obtain ⟨f, _, _, rfl⟩ := moveField_eq_ok_iff.mp ht
  exact List.eraseIdx_insertIdx_self f

/-- A move is undone by the move in the other direction. -/
theorem moveField_back (ht : s.moveField source target = .ok t) :
    t.moveField target source = .ok s := by
  have hget := moveField_getElem? ht
  have herase := moveField_eraseIdx ht
  have hlength : t.form.fields.length = s.form.fields.length := (moveField_perm ht).length_eq
  obtain ⟨f, hf, _, he⟩ := moveField_eq_ok_iff.mp ht
  obtain ⟨hs, hfs⟩ := List.getElem?_eq_some_iff.mp hf
  have hrestored : (s.form.fields.eraseIdx source).insertIdx source f = s.form.fields := by
    rw [← hfs]
    exact List.insertIdx_eraseIdx_getElem hs
  refine moveField_eq_ok_iff.mpr ⟨f, hget.trans hf, by omega, ?_⟩
  rw [herase, hrestored, he]
  rfl

/-- A move fails exactly when one of its indices is past the fields. Else it changes nothing but the
order of the fields, and of that only the place of the one field, and it can be undone. -/
theorem moveField_splices (s : EditorState) (source target : Nat) :
    let count := s.form.fields.length
    (∀ why, s.moveField source target = .error why ↔
      (count ≤ source ∨ count ≤ target) ∧ why = .moveOutOfRange source target count) ∧
    ∀ f, s.form.fields[source]? = some f → target < count →
      ∃ t, s.moveField source target = .ok t ∧
        t.ids = s.ids ∧ t.form.name = s.form.name ∧ t.form.layout = s.form.layout ∧
        t.form.fields.Perm s.form.fields ∧ t.form.fields[target]? = some f ∧
        t.form.fields.eraseIdx target = s.form.fields.eraseIdx source ∧
        t.moveField target source = .ok s := by
  intro count
  refine ⟨fun why => moveField_eq_error_iff, fun f hf htarget => ?_⟩
  obtain ⟨t, ht⟩ : ∃ t, s.moveField source target = .ok t :=
    ⟨_, moveField_eq_ok_iff.mpr ⟨f, hf, htarget, rfl⟩⟩
  have hother : t.ids = s.ids ∧ t.form.name = s.form.name ∧ t.form.layout = s.form.layout := by
    obtain ⟨_, _, _, rfl⟩ := moveField_eq_ok_iff.mp ht
    exact ⟨rfl, rfl, rfl⟩
  exact ⟨t, ht, hother.1, hother.2.1, hother.2.2, moveField_perm ht,
    (moveField_getElem? ht).trans hf, moveField_eraseIdx ht, moveField_back ht⟩

/-- The first of three fields is dragged to the end, and dragged back from there. -/
theorem moveField_splices_forward :
    let name := Field.withDefaults .text 1
    let country := Field.withDefaults .select 2
    let terms := Field.withDefaults .checkbox 3
    let s := ofForm { fields := [name, country, terms] }
    s.form.fields[0]? = some name ∧ 2 < s.form.fields.length ∧
      ∃ t, s.moveField 0 2 = .ok t ∧ t.form.fields = [country, terms, name] ∧
        t.moveField 2 0 = .ok s := by
  intro name country terms s
  have hfirst : s.form.fields[0]? = some name := rfl
  have hlast : 2 < s.form.fields.length := by decide
  obtain ⟨t, ht, _, _, _, _, _, _, hback⟩ := (moveField_splices s 0 2).2 name hfirst hlast
  have hmoved : t = s.withFields [country, terms, name] := (Except.ok.inj ht).symm
  exact ⟨hfirst, hlast, t, ht, congrArg (fun u => u.form.fields) hmoved, hback⟩

end FormCompiler.EditorState
