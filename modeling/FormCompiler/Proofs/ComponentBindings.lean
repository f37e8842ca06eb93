import FormCompiler.Proofs.ImportSets
import FormCompiler.Proofs.OpenedWidgets
import FormCompiler.Proofs.SourceNames

/-! How often each UI component that a generated component opens is bound. The password input is
imported and declared as well, and what its declaration opens is not imported for it. -/

namespace FormCompiler

open Markup

theorem Primitive.not_mem_bound (p : Primitive) {w : Widget} (h : w ∈ p.widgets) :
    w ∉ [Widget.button] ∧ w ∉ Support.filePreview.bound ∧
      (w ∈ Support.passwordInput.bound → w = .passwordInput) := by
  revert w
  cases p <;> decide

namespace Form

variable {form : Form} {w : Widget}

theorem hasKind_iff {kind : FieldKind} :
    form.hasKind kind = true ↔ ∃ f ∈ form.fields, f.kind = kind := by
  simp [hasKind]

theorem primitive_eq_passwordInput_iff {kind : FieldKind} :
    kind.primitive = .passwordInput ↔ kind = .password := by
  cases kind <;> decide

theorem mem_imports_iff {p : Primitive} :
    p ∈ form.plan.imports.primitives ↔
      ∃ f ∈ form.fields, p = f.kind.primitive ∨ p = .label ∨ p = .formWrapper := by
  have himports : form.plan.imports = ImportSet.ofKinds (form.fields.map Field.kind) := rfl
  rw [himports, ImportSet.mem_ofKinds_iff]
  simp only [List.mem_map, exists_exists_and_eq_and]

theorem mem_imports_control_iff {p : Primitive} (hlabel : p ≠ .label)
    (hwrapper : p ≠ .formWrapper) :
    p ∈ form.plan.imports.primitives ↔ ∃ f ∈ form.fields, f.kind.primitive = p := by
  have himports : form.plan.imports = ImportSet.ofKinds (form.fields.map Field.kind) := rfl
  rw [himports, ImportSet.mem_ofKinds_control_iff hlabel hwrapper]
  simp only [List.mem_map, exists_exists_and_eq_and]

theorem plan_passwordSupport (form : Form) :
    form.plan.passwordSupport = form.hasKind .password := by
  have hcontains : form.plan.passwordSupport = true ↔
      .passwordInput ∈ form.plan.imports.primitives :=
    List.contains_iff_mem
  rw [Bool.eq_iff_iff, hcontains, mem_imports_control_iff (by decide) (by decide), hasKind_iff]
  simp only [primitive_eq_passwordInput_iff]

def imported (form : Form) : List Widget :=
  form.plan.imports.primitives.flatMap Primitive.widgets

theorem mem_imported_iff :
    w ∈ form.imported ↔ ∃ p ∈ form.plan.imports.primitives, w.group? = some p :=
  ImportSet.mem_widgets_iff

theorem mem_imported_control_iff {p : Primitive} (hgroup : w.group? = some p) (hlabel : p ≠ .label)
    (hwrapper : p ≠ .formWrapper) :
    w ∈ form.imported ↔ ∃ f ∈ form.fields, f.kind.primitive = p := by
  rw [mem_imported_iff, hgroup, ← mem_imports_control_iff hlabel hwrapper]
  simp only [Option.some.injEq, exists_eq_right']

theorem input_mem_imported_iff :
    .input ∈ form.imported ↔ ∃ f ∈ form.fields, f.kind.primitive = .input :=
  mem_imported_control_iff (by decide) (by decide) (by decide)

theorem passwordInput_mem_imported_iff :
    .passwordInput ∈ form.imported ↔ form.hasKind .password = true := by
  rw [mem_imported_control_iff (p := .passwordInput) (by decide) (by decide) (by decide),
    hasKind_iff]
  simp only [primitive_eq_passwordInput_iff]

theorem plan_bindings (form : Form) (w : Widget) :
    form.plan.bindings w =
      [Widget.button].count w + (if w ∈ form.imported then 1 else 0) +
        (if form.hasKind .password then Support.passwordInput.bound.count w else 0) +
        (if form.hasKind .file then Support.filePreview.bound.count w else 0) := by
  have himported : form.imported.count w = if w ∈ form.imported then 1 else 0 :=
    (ImportSet.widgets_nodup (form.fields.map Field.kind)).count
  have hsupports : (form.plan.supports.flatMap Support.bound).count w =
      (if form.hasKind .password then Support.passwordInput.bound.count w else 0) +
        (if form.hasKind .file then Support.filePreview.bound.count w else 0) := by
    have hfile : form.plan.filePreviewSupport = form.hasKind .file := rfl
    rw [Plan.supports, plan_passwordSupport, hfile, List.flatMap_append, List.count_append]
    congr 1
    · cases form.hasKind .password <;> simp
    · cases form.hasKind .file <;> simp
  rw [Plan.bindings_eq, Plan.bound, List.count_append, List.count_append, hsupports,
    ← Nat.add_assoc, ← himported, imported]

theorem mem_opened_cases (h : w ∈ form.plan.opened) :
    w = .button ∨ w ∈ Primitive.formWrapper.widgets ∨
      (∃ f ∈ form.fields, w ∈ f.kind.primitive.widgets) ∨
      (form.hasKind .password = true ∧ (w = .input ∨ w = .eyeOff ∨ w = .eye)) ∨
      (form.hasKind .file = true ∧ (w = .cross ∨ w = .filePreview)) := by
  have hfile : form.plan.filePreviewSupport = form.hasKind .file := rfl
  rw [Plan.mem_opened_iff, plan_passwordSupport, hfile] at h
  rcases h with ⟨hpassword, rfl | rfl | hw⟩ | ⟨hfile, rfl | rfl⟩ | rfl | ⟨b, hb, hw⟩ | rfl
  · exact Or.inr (Or.inr (Or.inr (Or.inl ⟨hpassword, Or.inl rfl⟩)))
  · exact Or.inl rfl
  · exact Or.inr (Or.inr (Or.inr (Or.inl ⟨hpassword, Or.inr hw⟩)))
  · exact Or.inl rfl
  · exact Or.inr (Or.inr (Or.inr (Or.inr ⟨hfile, Or.inl rfl⟩)))
  · exact Or.inr (Or.inl (by decide))
  · obtain ⟨f, hf, rfl⟩ := List.mem_map.mp hb
    rcases Field.mem_opened hw with hw | hw | ⟨hkind, rfl⟩
    · exact Or.inr (Or.inl hw)
    · exact Or.inr (Or.inr (Or.inl ⟨f, hf, hw⟩))
    · exact Or.inr (Or.inr (Or.inr (Or.inr ⟨hasKind_iff.mpr ⟨f, hf, hkind⟩, Or.inr rfl⟩)))
  · exact Or.inl rfl

theorem passwordInput_mem_opened {f : Field} (hf : f ∈ form.fields) (hkind : f.kind = .password) :
    .passwordInput ∈ form.plan.opened :=
  Plan.mem_opened_iff.mpr (Or.inr (Or.inr (Or.inr (Or.inl
    ⟨f.block, List.mem_map_of_mem hf, Field.passwordInput_mem_opened hkind⟩))))

/-- What imports the password input also declares it. -/
theorem bindings_of_imported (h : w ∈ form.imported) :
    form.plan.bindings w = if w = .passwordInput then 2 else 1 := by
  by_cases hw : w = .passwordInput
  · subst hw
    have hkind : form.hasKind .password = true := passwordInput_mem_imported_iff.mp h
    have hpreview : Support.filePreview.bound.count .passwordInput = 0 := by decide
    rw [plan_bindings, if_pos h, if_pos hkind, hpreview, ite_self]
    rfl
  · obtain ⟨p, -, hgroup⟩ := mem_imported_iff.mp h
    obtain ⟨hbutton, hpreview, hpassword⟩ := p.not_mem_bound (Widget.group?_eq_some_iff.mp hgroup)
    rw [plan_bindings, if_pos h, if_neg hw, List.count_eq_zero_of_not_mem hbutton,
      List.count_eq_zero_of_not_mem hpreview,
      List.count_eq_zero_of_not_mem fun hmem => hw (hpassword hmem), ite_self, ite_self]

theorem mem_imported_of_mem_widgets {f : Field} (hf : f ∈ form.fields)
    (h : w ∈ f.kind.primitive.widgets) : w ∈ form.imported :=
  mem_imported_iff.mpr
    ⟨_, mem_imports_iff.mpr ⟨f, hf, Or.inl rfl⟩, Widget.group?_eq_some_iff.mpr h⟩

theorem mem_imported_of_mem_wrapper (hfields : form.fields ≠ [])
    (h : w ∈ Primitive.formWrapper.widgets) : w ∈ form.imported := by
  obtain ⟨f, hf⟩ := List.exists_mem_of_ne_nil _ hfields
  exact mem_imported_iff.mpr
    ⟨_, mem_imports_iff.mpr ⟨f, hf, Or.inr (Or.inr rfl)⟩, Widget.group?_eq_some_iff.mpr h⟩

theorem mem_imported_of_opened (hfields : form.fields ≠ [])
    (hpassword : form.hasKind .password = false) {p : Primitive} (hgroup : w.group? = some p)
    (h : w ∈ form.plan.opened) : w ∈ form.imported := by
  rcases mem_opened_cases h with rfl | hw | ⟨f, hf, hw⟩ | ⟨hkind, -⟩ | ⟨-, rfl | rfl⟩
  · exact absurd hgroup (by decide +revert)
  · exact mem_imported_of_mem_wrapper hfields hw
  · exact mem_imported_of_mem_widgets hf hw
  · exact absurd (hpassword.symm.trans hkind) Bool.false_ne_true
  · exact absurd hgroup (by decide +revert)
  · exact absurd hgroup (by decide +revert)

/-- The declared password input opens an input, which no field need import. -/
theorem bindings_of_opened (hfields : form.fields ≠ []) (h : w ∈ form.plan.opened) :
    form.plan.bindings w =
      if w = .passwordInput then 2
      else if w = .input ∧ ∀ f ∈ form.fields, f.kind.primitive ≠ .input then 0
      else 1 := by
  by_cases himported : w ∈ form.imported
  · have hinput : ¬ (w = .input ∧ ∀ f ∈ form.fields, f.kind.primitive ≠ .input) := by
      rintro ⟨rfl, hnone⟩
      obtain ⟨f, hf, hcontrol⟩ := input_mem_imported_iff.mp himported
      exact hnone f hf hcontrol
    rw [bindings_of_imported himported, if_neg hinput]
  · rcases mem_opened_cases h with rfl | hw | ⟨f, hf, hw⟩ | ⟨hpassword, hw⟩ | ⟨hfile, hw⟩
    · simp [plan_bindings, himported]
    · exact absurd (mem_imported_of_mem_wrapper hfields hw) himported
    · exact absurd (mem_imported_of_mem_widgets hf hw) himported
    · rcases hw with rfl | rfl | rfl
      · have hnone : ∀ f ∈ form.fields, f.kind.primitive ≠ .input := fun f hf hcontrol =>
          himported (input_mem_imported_iff.mpr ⟨f, hf, hcontrol⟩)
        simpa [plan_bindings, himported] using hnone
      · simp [plan_bindings, himported, hpassword]
      · simp [plan_bindings, himported, hpassword]
    · rcases hw with rfl | rfl
      · simp [plan_bindings, himported, hfile]
      · simp [plan_bindings, himported, hfile]

theorem bindings_eq_one (hfields : form.fields ≠ []) (hpassword : form.hasKind .password = false)
    (h : w ∈ form.plan.opened) : form.plan.bindings w = 1 := by
  have hnot : w ≠ .passwordInput := by
    rintro rfl
    have himported := mem_imported_of_opened hfields hpassword (p := .passwordInput) (by decide) h
    rw [passwordInput_mem_imported_iff, hpassword] at himported
    exact Bool.false_ne_true himported
  have hinput : ¬ (w = .input ∧ ∀ f ∈ form.fields, f.kind.primitive ≠ .input) := by
    rintro ⟨rfl, hnone⟩
    have himported := mem_imported_of_opened hfields hpassword (p := .input) (by decide) h
    obtain ⟨f, hf, hcontrol⟩ := input_mem_imported_iff.mp himported
    exact hnone f hf hcontrol
  rw [bindings_of_opened hfields h, if_neg hnot, if_neg hinput]

/-- The source of a form prints what its plan opens, and binds each of these components once just
when the form has no password field. Otherwise the password input is bound twice, and the input
that it is made of is bound only if another field needs it. -/
theorem source_binds_opened (form : Form) (hfields : form.fields ≠ []) :
    form.emit = .source ("\n".intercalate form.plan.lines ++ "\n") ∧
      (∀ w ∈ form.plan.opened, (∃ text ∈ form.plan.lines, Opens w text) ∧
        form.plan.bindings w =
          if w = .passwordInput then 2
          else if w = .input ∧ ∀ f ∈ form.fields, f.kind.primitive ≠ .input then 0
          else 1) ∧
      ((∀ w ∈ form.plan.opened, form.plan.bindings w = 1) ↔ form.hasKind .password = false) := by
  have hsome : form.fields.isEmpty = false := by simpa using hfields
  refine ⟨by rw [emit, hsome]; rfl, fun w hw =>
    ⟨exists_opens_allLines 0 form.plan.markup hw, bindings_of_opened hfields hw⟩, ?_⟩
  constructor
  · intro honce
    rw [Bool.eq_false_iff, ne_eq, hasKind_iff]
    rintro ⟨f, hf, hkind⟩
    have hopened : .passwordInput ∈ form.plan.opened := passwordInput_mem_opened hf hkind
    have htwice := bindings_of_opened hfields hopened
    rw [honce _ hopened, if_pos rfl] at htwice
    exact absurd htwice (by decide)
  · exact fun hpassword w hw => bindings_eq_one hfields hpassword hw

theorem source_binds_opened_upload :
    let note : Field := { id := "element-1", kind := .textarea, label := "Note", name := "note" }
    let scan : Field := { id := "element-2", kind := .file, label := "Scan", name := "scan" }
    let form : Form := { name := "Upload", fields := [note, scan] }
    form.fields ≠ [] ∧ .filePreview ∈ form.plan.opened ∧ .textarea ∈ form.plan.opened ∧
      ∀ w ∈ form.plan.opened, form.plan.bindings w = 1 := by
  intro note scan form
  have hfields : form.fields ≠ [] := List.cons_ne_nil _ _
  obtain ⟨-, -, honce⟩ := source_binds_opened form hfields
  exact ⟨hfields, by decide, by decide, honce.mpr (by decide)⟩

/-- A form with a password alone declares the password input that it imports, and does not import
the input in that declaration. -/
theorem password_bound_twice :
    let secret : Field :=
      { id := "element-1", kind := .password, label := "Password", name := "password" }
    let form : Form := { name := "Login", fields := [secret] }
    .passwordInput ∈ form.plan.opened ∧ form.plan.bindings .passwordInput = 2 ∧
      .input ∈ form.plan.opened ∧ form.plan.bindings .input = 0 := by
  intro secret form
  have hpassword : Widget.passwordInput ∈ form.plan.opened :=
    passwordInput_mem_opened List.mem_cons_self rfl
  have hinput : Widget.input ∈ form.plan.opened :=
    Plan.mem_opened_iff.mpr (Or.inl ⟨by decide, Or.inl rfl⟩)
  refine ⟨hpassword, ?_, hinput, ?_⟩
  · rw [Plan.bindings_eq]
    decide
  · rw [Plan.bindings_eq]
    decide

end Form

end FormCompiler
