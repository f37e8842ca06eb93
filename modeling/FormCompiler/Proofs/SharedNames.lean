import FormCompiler.CommandLine.Run
import FormCompiler.Proofs.CheckReports

/-! Names that fields share. The check reports a name once for each field that repeats it, and a
form with such a report is refused before anything is made of it. Fields without a name are not
compared with each other, so any number of them gets through. -/

namespace FormCompiler

def Issue.repeatedName? : Issue → Option String
  | .duplicateName name => some name
  | _ => none

theorem Issue.repeatedName?_eq_some_iff {issue : Issue} {name : String} :
    issue.repeatedName? = some name ↔ issue = .duplicateName name := by
  cases issue <;> simp [repeatedName?]

namespace Form

/-- Two fields of the form have the name. -/
def SharesName (form : Form) (name : String) : Prop :=
  List.Duplicate name (form.fields.map Field.name)

theorem mem_repeatedNames_iff (form : Form) (name : String) :
    name ∈ form.repeatedNames ↔ name ≠ "" ∧ form.SharesName name := by
  have hreported : name ∈ form.repeatedNames ↔ .duplicateName name ∈ form.check := by
    have hnames : form.repeatedNames = form.check.filterMap Issue.repeatedName? := rfl
    simp only [hnames, List.mem_filterMap, Issue.repeatedName?_eq_some_iff, exists_eq_right]
  exact hreported.trans (form.duplicateName_mem_check_iff name)

theorem namesAreUnique_iff (form : Form) :
    form.namesAreUnique = true ↔ ¬ ∃ name, name ≠ "" ∧ form.SharesName name := by
  rw [namesAreUnique, List.isEmpty_iff, List.eq_nil_iff_forall_not_mem, not_exists]
  exact forall_congr' fun name => not_congr (form.mem_repeatedNames_iff name)

/-- What the check finds besides shared names does not matter: a form that is read from a file is
refused exactly when two of its fields share a name that is not empty, and the refusal lists these
names. Any other form is handed on as it is. -/
theorem refused_iff_sharesName (form : Form) :
    (form.namesAreUnique = true ↔ ¬ ∃ name, name ≠ "" ∧ form.SharesName name) ∧
    (∀ name, name ∈ form.repeatedNames ↔ name ≠ "" ∧ form.SharesName name) ∧
    ∀ (files : Files) (path : String), files.form path = .ok form →
      ((∃ e, files.compilableForm path = .error e) ↔ ∃ name, name ≠ "" ∧ form.SharesName name) ∧
      (∀ e, files.compilableForm path = .error e → e = .message
        (s!"form '{form.name}' has duplicate field names: " ++
          ", ".intercalate form.repeatedNames)) ∧
      ∀ g, files.compilableForm path = .ok g → g = form := by
  refine ⟨form.namesAreUnique_iff, form.mem_repeatedNames_iff, fun files path hread => ?_⟩
  have hload : files.compilableForm path = form.compilable := by
    rw [Files.compilableForm, hread]
    rfl
  by_cases hunique : form.namesAreUnique = true
  · have hok : form.compilable = .ok form := if_pos hunique
    have hnone := form.namesAreUnique_iff.mp hunique
    rw [hload, hok]
    simp [hnone]
  · have hshared : ∃ name, name ≠ "" ∧ form.SharesName name :=
      Classical.not_not.mp fun h => hunique (form.namesAreUnique_iff.mpr h)
    have herror : form.compilable = .error (.message
        (s!"form '{form.name}' has duplicate field names: " ++
          ", ".intercalate form.repeatedNames)) := if_neg hunique
    rw [hload, herror]
    simp [hshared]

/-- Two fields with one name are refused as they come from their file. -/
theorem refused_iff_sharesName_email :
    let text : Field := { id := "a", kind := .text, label := "", name := "email" }
    let box : Field := { id := "b", kind := .checkbox, label := "", name := "email" }
    let form : Form := { fields := [text, box] }
    let files : Files := ⟨fun _ => some form.toJson.compact, fun _ => true⟩
    files.form "signup.json" = .ok form ∧ form.SharesName "email" ∧
      ∃ e, files.compilableForm "signup.json" = .error e := by
  intro text box form files
  have hread : files.form "signup.json" = .ok form := by decide +kernel
  have hshared : form.SharesName "email" := by
    rw [SharesName, List.duplicate_iff_two_le_count]
    decide
  obtain ⟨_, _, hfiles⟩ := refused_iff_sharesName form
  obtain ⟨hrefused, _⟩ := hfiles files "signup.json" hread
  exact ⟨hread, hshared, hrefused.mpr ⟨"email", by decide, hshared⟩⟩

/-- Two fields that nobody has named share the empty name, and yet their form is handed on. -/
theorem nameless_fields_handed_on :
    let city : Field := { id := "element-1", kind := .text, label := "City", name := "" }
    let day : Field := { id := "element-2", kind := .date, label := "Day", name := "" }
    let form : Form := { fields := [city, day] }
    form.SharesName "" ∧ form.namesAreUnique = true ∧ form.compilable = .ok form ∧
      form.schema.names = ["", ""] := by
  intro city day form
  have hshared : form.SharesName "" := by
    rw [SharesName, List.duplicate_iff_two_le_count]
    decide
  have hunique : form.namesAreUnique = true := by decide
  exact ⟨hshared, hunique, if_pos hunique, rfl⟩

end Form

end FormCompiler
