import FormCompiler.Form.Check

/-! Well-formed fields and forms, stated part by part, and that these are the ones without
issues. -/

namespace FormCompiler

structure Field.WellFormed (f : Field) : Prop where
  identifier : isIdentifier f.name = true
  choice : f.optionList ≠ [] → f.kind.isChoice = true
  values : (f.optionList.map FieldOption.value).Nodup
  lengths : ∀ min ∈ f.minLength, ∀ max ∈ f.maxLength, ¬ max < min
  bounds : ∀ min ∈ f.min, ∀ max ∈ f.max, ¬ max < min
  rows : f.rows ≠ some 0

structure Form.WellFormed (form : Form) : Prop where
  named : Text.allBlank form.name = false
  ids : (form.fields.map Field.id).Nodup
  names : (form.fields.map Field.name).Nodup
  sound : ∀ f ∈ form.fields, f.WellFormed

theorem isIdentifier_empty : isIdentifier "" = false := by decide

namespace Field

theorem nameIssues_eq_nil_iff (f : Field) : f.nameIssues = [] ↔ isIdentifier f.name = true := by
  by_cases he : f.name = ""
  · simp [nameIssues, he, isIdentifier_empty]
  · by_cases hi : isIdentifier f.name = true <;> simp [nameIssues, he, hi]

theorem repeatedValues_eq_nil_iff (id : String) (seen : List String) (options : List FieldOption) :
    repeatedValues id seen options = [] ↔
      (options.map FieldOption.value).Nodup ∧ ∀ o ∈ options, o.value ∉ seen := by
  induction options generalizing seen with
  | nil => simp [repeatedValues]
  | cons o rest ih =>
    by_cases ho : o.value ∈ seen
    · simp [repeatedValues, ho]
    · simp only [repeatedValues, List.contains_iff_mem, ho, if_false, List.nil_append, ih,
        List.map_cons, List.nodup_cons, List.mem_map, List.mem_cons, not_or, not_exists, not_and,
        forall_eq_or_imp, not_false_eq_true, true_and]
      grind

theorem optionIssues_eq_nil_iff (f : Field) :
    f.optionIssues = [] ↔ (f.optionList ≠ [] → f.kind.isChoice = true) ∧
      (f.optionList.map FieldOption.value).Nodup := by
  cases hk : f.kind.isChoice <;> cases ho : f.optionList <;>
    simp [optionIssues, repeatedValues_eq_nil_iff, hk, ho]

theorem orderIssues_eq_nil_iff {α : Type} [LT α] [DecidableLT α] (issue : α → α → Issue)
    (least greatest : Option α) : orderIssues issue least greatest = [] ↔
      ∀ min ∈ least, ∀ max ∈ greatest, ¬ max < min := by
  cases least <;> cases greatest <;> simp [orderIssues]

theorem rowIssues_eq_nil_iff (f : Field) : f.rowIssues = [] ↔ f.rows ≠ some 0 := by
  by_cases h : f.rows = some 0 <;> simp [rowIssues, h]

theorem issues_eq_nil_iff (f : Field) : f.issues = [] ↔ f.WellFormed := by
  simp only [issues, List.append_eq_nil_iff, nameIssues_eq_nil_iff, optionIssues_eq_nil_iff,
    lengthIssues, boundIssues, orderIssues_eq_nil_iff, rowIssues_eq_nil_iff]
  constructor
  · rintro ⟨⟨⟨⟨hi, hc, hv⟩, hl⟩, hb⟩, hr⟩
    exact ⟨hi, hc, hv, hl, hb, hr⟩
  · intro h
    exact ⟨⟨⟨⟨h.identifier, h.choice, h.values⟩, h.lengths⟩, h.bounds⟩, h.rows⟩

theorem WellFormed.name_ne_empty {f : Field} (h : f.WellFormed) : f.name ≠ "" := by
  intro he
  have hi := h.identifier
  rw [he, isIdentifier_empty] at hi
  exact absurd hi (by decide)

end Field

namespace Form

/-- The fields that are checked after others must neither repeat each other's ids and names nor
those seen before. Empty names are not compared, but no sound field has one. -/
theorem fieldIssues_eq_nil_iff (ids names : List String) (fields : List Field) :
    fieldIssues ids names fields = [] ↔
      ((fields.map Field.id).Nodup ∧ ∀ f ∈ fields, f.id ∉ ids) ∧
      ((fields.map Field.name).Nodup ∧ ∀ f ∈ fields, f.name ∉ names) ∧
      ∀ f ∈ fields, f.WellFormed := by
  induction fields generalizing ids names with
  | nil => simp [fieldIssues]
  | cons f rest ih =>
    have hname : f.WellFormed → f.name ≠ "" := Field.WellFormed.name_ne_empty
    simp only [fieldIssues, List.append_eq_nil_iff, Field.issues_eq_nil_iff, ih, List.map_cons,
      List.nodup_cons, List.mem_map, List.mem_cons]
    grind

theorem check_eq_nil_iff (form : Form) : form.check = [] ↔ form.WellFormed := by
  have hblank : (if Text.allBlank form.name then [Issue.emptyFormName] else []) = [] ↔
      Text.allBlank form.name = false := by
    cases Text.allBlank form.name <;> simp
  simp only [check, List.append_eq_nil_iff, hblank, fieldIssues_eq_nil_iff, List.not_mem_nil,
    not_false_eq_true, implies_true, and_true]
  constructor
  · rintro ⟨hb, hi, hn, hs⟩
    exact ⟨hb, hi, hn, hs⟩
  · intro h
    exact ⟨h.named, h.ids, h.names, h.sound⟩

section Reported

variable {ids names : List String} {fields : List Field} {f g : Field}

theorem mem_fieldIssues {issue : Issue} (hf : f ∈ fields) (hi : issue ∈ f.issues) :
    issue ∈ fieldIssues ids names fields := by
  induction fields generalizing ids names with
  | nil => simp at hf
  | cons first rest ih =>
    rcases List.mem_cons.mp hf with rfl | hf
    · simp [fieldIssues, hi]
    · simp [fieldIssues, ih hf]

theorem duplicateName_mem_of_seen (hf : f ∈ fields) (hname : f.name ≠ "") (hseen : f.name ∈ names) :
    .duplicateName f.name ∈ fieldIssues ids names fields := by
  induction fields generalizing ids names with
  | nil => simp at hf
  | cons first rest ih =>
    rcases List.mem_cons.mp hf with rfl | hf
    · simp [fieldIssues, hname, hseen]
    · simp [fieldIssues, ih hf (List.mem_cons_of_mem first.name hseen)]

/-- Of two fields with one name the later is reported. -/
theorem duplicateName_mem_fieldIssues (hf : f ∈ fields) (hg : g ∈ fields) (hne : f ≠ g)
    (he : f.name = g.name) (hname : f.name ≠ "") :
    .duplicateName f.name ∈ fieldIssues ids names fields := by
  induction fields generalizing ids names with
  | nil => simp at hf
  | cons first rest ih =>
    rw [fieldIssues]
    apply List.mem_append_right
    rcases List.mem_cons.mp hf with rfl | hfrest
    · have hgrest : g ∈ rest := (List.mem_cons.mp hg).resolve_left hne.symm
      rw [he] at hname ⊢
      exact duplicateName_mem_of_seen hgrest hname (by simp)
    · rcases List.mem_cons.mp hg with rfl | hgrest
      · exact duplicateName_mem_of_seen hfrest hname (by simp [he])
      · exact ih hfrest hgrest

theorem mem_check {form : Form} {issue : Issue} (hf : f ∈ form.fields) (hi : issue ∈ f.issues) :
    issue ∈ form.check :=
  List.mem_append_right _ (mem_fieldIssues hf hi)

theorem duplicateName_mem_check {form : Form} (hf : f ∈ form.fields) (hg : g ∈ form.fields)
    (hne : f ≠ g) (he : f.name = g.name) (hname : f.name ≠ "") :
    .duplicateName f.name ∈ form.check :=
  List.mem_append_right _ (duplicateName_mem_fieldIssues hf hg hne he hname)

end Reported

end Form

end FormCompiler
