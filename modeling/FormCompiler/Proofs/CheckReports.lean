import FormCompiler.Proofs.WellFormed
import Mathlib.Algebra.BigOperators.Group.List.Basic
import Mathlib.Algebra.GroupWithZero.Nat
import Mathlib.Data.List.Count
import Mathlib.Data.List.Duplicate
import Mathlib.Data.List.Perm.Basic

/-! What a check decides and what it counts. Up to order the issues of a form are the repeated ids,
the repeated names and what is wrong with each field by itself. What occurs several times is reported
once for each time but the first, and so the order of the fields does not matter. -/

namespace FormCompiler

def IsIdentifierStart (c : Char) : Prop :=
  ('A' ≤ c ∧ c ≤ 'Z') ∨ ('a' ≤ c ∧ c ≤ 'z') ∨ c = '_' ∨ c = '$'

/-- The texts that `[A-Za-z_$][A-Za-z0-9_$]*` matches as a whole. -/
def MatchesIdentifier (s : String) : Prop :=
  ∃ first rest, s.toList = first :: rest ∧ IsIdentifierStart first ∧
    ∀ c ∈ rest, IsIdentifierStart c ∨ ('0' ≤ c ∧ c ≤ '9')

theorem isIdentifierStart_iff (c : Char) :
    (c.isAlpha || c == '_' || c == '$') = true ↔ IsIdentifierStart c := by
  have hupper : c.isUpper = true ↔ 'A' ≤ c ∧ c ≤ 'Z' := by
    rw [Char.le_def, Char.le_def]
    exact decide_eq_true_iff
  have hlower : c.isLower = true ↔ 'a' ≤ c ∧ c ≤ 'z' := by
    have hbounds : c.isLower = (decide ('a'.val ≤ c.val) && decide (c.val ≤ 'z'.val)) := rfl
    rw [hbounds, Char.le_def, Char.le_def, Bool.and_eq_true, decide_eq_true_iff, decide_eq_true_iff]
  have halpha : c.isAlpha = (c.isUpper || c.isLower) := rfl
  simp only [IsIdentifierStart, halpha, hupper, hlower, Bool.or_eq_true, beq_iff_eq, or_assoc]

theorem isIdentifier_iff (s : String) : isIdentifier s = true ↔ MatchesIdentifier s := by
  have hpart (c : Char) : (c.isAlphanum || c == '_' || c == '$') = true ↔
      IsIdentifierStart c ∨ ('0' ≤ c ∧ c ≤ '9') := by
    rw [← isIdentifierStart_iff]
    simp only [Char.isAlphanum, Char.isDigit, Char.le_def, ge_iff_le, Bool.or_eq_true,
      Bool.and_eq_true, decide_eq_true_eq]
    tauto
  rw [isIdentifier, MatchesIdentifier]
  cases hs : s.toList with
  | nil => simp
  | cons first rest =>
    simp only [Bool.and_eq_true, isIdentifierStart_iff, List.all_eq_true, hpart]
    constructor
    · rintro ⟨hfirst, hrest⟩
      exact ⟨first, rest, rfl, hfirst, hrest⟩
    · rintro ⟨_, _, ⟨⟩, hfirst, hrest⟩
      exact ⟨hfirst, hrest⟩

/-- The texts of a list that occur earlier in it or among those seen before. -/
def repeats : List String → List String → List String
  | _, [] => []
  | seen, x :: rest => (if x ∈ seen then [x] else []) ++ repeats (x :: seen) rest

/-- Of the occurrences of a text all but the first repeat it, or all of them if it was seen before. -/
theorem count_repeats (seen xs : List String) (x : String) :
    (repeats seen xs).count x = if x ∈ seen then xs.count x else xs.count x - 1 := by
  induction xs generalizing seen with
  | nil => simp [repeats]
  | cons y rest ih =>
    rw [repeats, List.count_append, ih]
    by_cases he : y = x
    · subst he
      by_cases hseen : y ∈ seen
      · simp [hseen, Nat.add_comm]
      · simp [hseen]
    · have hother : (if y ∈ seen then [y] else []).count x = 0 := by
        split <;> simp [he]
      have hmem : x ∈ y :: seen ↔ x ∈ seen := by simp [Ne.symm he]
      simp only [hother, hmem, Nat.zero_add, List.count_cons_of_ne he]

theorem repeats_perm {xs ys : List String} (h : xs.Perm ys) : (repeats [] xs).Perm (repeats [] ys) := by
  rw [List.perm_iff_count]
  intro x
  rw [count_repeats, count_repeats, h.count_eq]

/-- What is reported of something that comes again. -/
def Issue.IsRepeat : Issue → Prop
  | duplicateId _ | duplicateName _ | duplicateOptionValue _ _ => True
  | _ => False

namespace Field

theorem repeatedValues_eq (id : String) (seen : List String) (options : List FieldOption) :
    repeatedValues id seen options =
      (repeats seen (options.map FieldOption.value)).map (.duplicateOptionValue id) := by
  induction options generalizing seen with
  | nil => rfl
  | cons o rest ih =>
    rw [repeatedValues, ih, List.map_cons, repeats, List.map_append]
    by_cases ho : o.value ∈ seen <;> simp [ho]

section Members

variable {f : Field} {issue : Issue}

theorem mem_nameIssues_iff : issue ∈ f.nameIssues ↔
    f.name = "" ∧ issue = .emptyName f.id ∨
      (f.name ≠ "" ∧ isIdentifier f.name = false) ∧ issue = .invalidName f.id f.name := by
  rw [nameIssues]
  by_cases he : f.name = ""
  · simp [he]
  · cases hi : isIdentifier f.name <;> simp [he]

theorem mem_orderIssues_iff {α : Type} [LT α] [DecidableLT α] {report : α → α → Issue}
    {least greatest : Option α} : issue ∈ orderIssues report least greatest ↔
      ∃ min ∈ least, ∃ max ∈ greatest, max < min ∧ issue = report min max := by
  cases least with
  | none => simp [orderIssues]
  | some min =>
    cases greatest with
    | none => simp [orderIssues]
    | some max => by_cases h : max < min <;> simp [orderIssues, h]

theorem mem_rowIssues_iff : issue ∈ f.rowIssues ↔ f.rows = some 0 ∧ issue = .zeroRows f.id := by
  rw [rowIssues]
  by_cases h : f.rows = some 0 <;> simp [h]

end Members

/-- The issues of a field that are not about values of options. -/
def plainIssues (f : Field) : List Issue :=
  f.nameIssues ++
    (if !f.kind.isChoice && !f.optionList.isEmpty then [.unexpectedOptions f.id f.kind] else []) ++
    f.lengthIssues ++ f.boundIssues ++ f.rowIssues

theorem not_isRepeat_of_mem_plainIssues {f : Field} {issue : Issue} (h : issue ∈ f.plainIssues) :
    ¬ issue.IsRepeat := by
  simp only [plainIssues, List.mem_append] at h
  rcases h with (((hname | hoption) | hlength) | hbound) | hrow
  · rcases mem_nameIssues_iff.mp hname with ⟨_, rfl⟩ | ⟨_, rfl⟩ <;> exact not_false
  · split at hoption
    · rw [List.mem_singleton.mp hoption]
      exact not_false
    · simp at hoption
  · obtain ⟨_, _, _, _, _, rfl⟩ := mem_orderIssues_iff.mp hlength
    exact not_false
  · obtain ⟨_, _, _, _, _, rfl⟩ := mem_orderIssues_iff.mp hbound
    exact not_false
  · obtain ⟨_, rfl⟩ := mem_rowIssues_iff.mp hrow
    exact not_false

theorem issues_perm (f : Field) :
    f.issues.Perm ((repeats [] (f.optionList.map FieldOption.value)).map
      (.duplicateOptionValue f.id) ++ f.plainIssues) := by
  rw [List.perm_iff_count]
  intro issue
  simp only [issues, optionIssues, plainIssues, repeatedValues_eq, List.count_append]
  omega

theorem count_issues_of_isRepeat (f : Field) {issue : Issue} (h : issue.IsRepeat) :
    f.issues.count issue =
      ((repeats [] (f.optionList.map FieldOption.value)).map
        (.duplicateOptionValue f.id)).count issue := by
  have hplain : f.plainIssues.count issue = 0 :=
    List.count_eq_zero.mpr fun hm => not_isRepeat_of_mem_plainIssues hm h
  rw [f.issues_perm.count_eq, List.count_append, hplain, Nat.add_zero]

theorem count_issues_duplicateOptionValue (f : Field) (id value : String) :
    f.issues.count (.duplicateOptionValue id value) =
      if f.id = id then (f.optionList.map FieldOption.value).count value - 1 else 0 := by
  have hrepeat : (Issue.duplicateOptionValue id value).IsRepeat := trivial
  rw [f.count_issues_of_isRepeat hrepeat]
  by_cases hid : f.id = id
  · have hinjective : Function.Injective (Issue.duplicateOptionValue id) := by
      intro v w he
      simpa using he
    rw [if_pos hid, hid, List.count_map_of_injective _ _ hinjective, count_repeats]
    simp
  · rw [if_neg hid, List.count_eq_zero]
    simp [hid]

end Field

namespace Form

theorem fieldIssues_perm (ids names : List String) (fields : List Field) :
    (fieldIssues ids names fields).Perm
      ((repeats ids (fields.map Field.id)).map .duplicateId ++
        ((repeats names (fields.map Field.name)).filter (· ≠ "")).map .duplicateName ++
        fields.flatMap Field.issues) := by
  rw [List.perm_iff_count]
  intro issue
  induction fields generalizing ids names with
  | nil => rfl
  | cons f rest ih =>
    have hrest := ih (f.id :: ids) (f.name :: names)
    have hname : (if f.name ≠ "" ∧ names.contains f.name then [Issue.duplicateName f.name]
        else []) = ((if f.name ∈ names then [f.name] else []).filter (· ≠ "")).map .duplicateName := by
      by_cases he : f.name = "" <;> by_cases hn : f.name ∈ names <;> simp [he, hn]
    have hid : (if ids.contains f.id then [Issue.duplicateId f.id] else []) =
        (if f.id ∈ ids then [f.id] else []).map .duplicateId := by
      by_cases hi : f.id ∈ ids <;> simp [hi]
    simp only [fieldIssues, hname, hid, List.map_cons, repeats, List.filter_append, List.map_append,
      List.flatMap_cons, List.count_append] at hrest ⊢
    omega

/-- Up to order, what a check reports. -/
theorem check_perm_parts (form : Form) :
    form.check.Perm ((if Text.allBlank form.name then [Issue.emptyFormName] else []) ++
      ((repeats [] (form.fields.map Field.id)).map .duplicateId ++
        ((repeats [] (form.fields.map Field.name)).filter (· ≠ "")).map .duplicateName ++
        form.fields.flatMap Field.issues)) :=
  (fieldIssues_perm [] [] form.fields).append_left _

theorem count_check_of_isRepeat (form : Form) {issue : Issue} (h : issue.IsRepeat) :
    form.check.count issue = ((repeats [] (form.fields.map Field.id)).map .duplicateId).count issue +
      (((repeats [] (form.fields.map Field.name)).filter (· ≠ "")).map .duplicateName).count issue +
      (form.fields.map fun f => f.issues.count issue).sum := by
  have hblank : (if Text.allBlank form.name then [Issue.emptyFormName] else []).count issue = 0 := by
    rw [List.count_eq_zero]
    split
    · rintro hm
      rw [List.mem_singleton.mp hm] at h
      exact h
    · simp
  rw [form.check_perm_parts.count_eq, List.count_append, List.count_append, List.count_append,
    hblank, List.count_flatMap, Nat.zero_add]
  rfl

theorem count_check_duplicateId (form : Form) (id : String) :
    form.check.count (.duplicateId id) = (form.fields.map Field.id).count id - 1 := by
  have hinjective : Function.Injective Issue.duplicateId := by
    intro v w he
    simpa using he
  have hrepeat : (Issue.duplicateId id).IsRepeat := trivial
  have hnames : (((repeats [] (form.fields.map Field.name)).filter (· ≠ "")).map
      Issue.duplicateName).count (.duplicateId id) = 0 := by
    rw [List.count_eq_zero]
    simp
  have hfield (f : Field) : f.issues.count (.duplicateId id) = 0 := by
    rw [f.count_issues_of_isRepeat hrepeat, List.count_eq_zero]
    simp
  rw [form.count_check_of_isRepeat hrepeat, hnames, List.count_map_of_injective _ _ hinjective,
    count_repeats]
  simp [hfield]

theorem count_check_duplicateName (form : Form) (name : String) :
    form.check.count (.duplicateName name) =
      if name = "" then 0 else (form.fields.map Field.name).count name - 1 := by
  have hinjective : Function.Injective Issue.duplicateName := by
    intro v w he
    simpa using he
  have hrepeat : (Issue.duplicateName name).IsRepeat := trivial
  have hids : ((repeats [] (form.fields.map Field.id)).map Issue.duplicateId).count
      (.duplicateName name) = 0 := by
    rw [List.count_eq_zero]
    simp
  have hfield (f : Field) : f.issues.count (.duplicateName name) = 0 := by
    rw [f.count_issues_of_isRepeat hrepeat, List.count_eq_zero]
    simp
  rw [form.count_check_of_isRepeat hrepeat, hids, List.count_map_of_injective _ _ hinjective]
  simp only [hfield]
  by_cases h : name = ""
  · simp [h, List.count_eq_zero]
  · rw [List.count_filter (by simpa using h), count_repeats, if_neg h]
    simp

theorem duplicateName_mem_check_iff (form : Form) (name : String) :
    .duplicateName name ∈ form.check ↔
      name ≠ "" ∧ List.Duplicate name (form.fields.map Field.name) := by
  rw [← List.count_pos_iff, form.count_check_duplicateName, List.duplicate_iff_two_le_count]
  by_cases h : name = ""
  · simp [h]
  · simp only [h, if_false, ne_eq, not_false_eq_true, true_and]
    omega

/-- Fields that share an id add up, since the report names the id. -/
theorem count_check_duplicateOptionValue (form : Form) (id value : String) :
    form.check.count (.duplicateOptionValue id value) =
      ((form.fields.filter fun f => f.id = id).map fun f =>
        (f.optionList.map FieldOption.value).count value - 1).sum := by
  have hrepeat : (Issue.duplicateOptionValue id value).IsRepeat := trivial
  have hids : ((repeats [] (form.fields.map Field.id)).map Issue.duplicateId).count
      (.duplicateOptionValue id value) = 0 := by
    rw [List.count_eq_zero]
    simp
  have hnames : (((repeats [] (form.fields.map Field.name)).filter (· ≠ "")).map
      Issue.duplicateName).count (.duplicateOptionValue id value) = 0 := by
    rw [List.count_eq_zero]
    simp
  rw [form.count_check_of_isRepeat hrepeat, hids, hnames]
  simp only [Field.count_issues_duplicateOptionValue, List.sum_map_ite]
  simp

theorem check_perm {form : Form} {fields : List Field} (h : fields.Perm form.fields) :
    ({ form with fields := fields } : Form).check.Perm form.check := by
  have hids := (repeats_perm (h.map Field.id)).map Issue.duplicateId
  have hnames := ((repeats_perm (h.map Field.name)).filter (· ≠ "")).map Issue.duplicateName
  have hfields := h.flatMap_right Field.issues
  have hparts := (hids.append hnames).append hfields
  exact (check_perm_parts _).trans ((hparts.append_left _).trans form.check_perm_parts.symm)

/-- A check finds nothing exactly when the form is as it should be; it reports whatever repeats each
time but the first; and fields in another order give the same reports in another order. -/
theorem check_decides_and_counts (form : Form) :
    (form.check = [] ↔
      (∃ c ∈ form.name.toList, Text.isBlank c = false) ∧
      (form.fields.map Field.id).Nodup ∧ (form.fields.map Field.name).Nodup ∧
      ∀ f ∈ form.fields, MatchesIdentifier f.name ∧
        (f.optionList ≠ [] → f.kind = .select ∨ f.kind = .radio ∨ f.kind = .checkboxGroup) ∧
        (f.optionList.map FieldOption.value).Nodup ∧
        (∀ min ∈ f.minLength, ∀ max ∈ f.maxLength, ¬ max < min) ∧
        (∀ min ∈ f.min, ∀ max ∈ f.max, ¬ max < min) ∧ f.rows ≠ some 0) ∧
    (∀ id, form.check.count (.duplicateId id) = (form.fields.map Field.id).count id - 1) ∧
    (∀ name, form.check.count (.duplicateName name) =
      if name = "" then 0 else (form.fields.map Field.name).count name - 1) ∧
    (∀ (f : Field) value, f.issues.count (.duplicateOptionValue f.id value) =
      (f.optionList.map FieldOption.value).count value - 1) ∧
    (∀ id value, form.check.count (.duplicateOptionValue id value) =
      ((form.fields.filter fun f => f.id = id).map fun f =>
        (f.optionList.map FieldOption.value).count value - 1).sum) ∧
    ∀ fields : List Field, fields.Perm form.fields →
      ({ form with fields := fields } : Form).check.Perm form.check := by
  have hchoice (kind : FieldKind) : kind.isChoice = true ↔
      kind = .select ∨ kind = .radio ∨ kind = .checkboxGroup := by
    cases kind <;> simp [FieldKind.isChoice]
  have hnamed : Text.allBlank form.name = false ↔ ∃ c ∈ form.name.toList, Text.isBlank c = false := by
    simp [Text.allBlank]
  have hfield (f : Field) (value : String) : f.issues.count (.duplicateOptionValue f.id value) =
      (f.optionList.map FieldOption.value).count value - 1 := by
    rw [f.count_issues_duplicateOptionValue, if_pos rfl]
  refine ⟨?_, form.count_check_duplicateId, form.count_check_duplicateName, hfield,
    form.count_check_duplicateOptionValue, fun fields => check_perm⟩
  rw [check_eq_nil_iff, ← hnamed]
  simp only [← hchoice, ← isIdentifier_iff]
  constructor
  · intro h
    refine ⟨h.named, h.ids, h.names, fun f hf => ?_⟩
    have hsound := h.sound f hf
    exact ⟨hsound.identifier, hsound.choice, hsound.values, hsound.lengths, hsound.bounds,
      hsound.rows⟩
  · rintro ⟨hname, hids, hnames, hsound⟩
    refine ⟨hname, hids, hnames, fun f hf => ?_⟩
    obtain ⟨hidentifier, hoptions, hvalues, hlengths, hbounds, hrows⟩ := hsound f hf
    exact ⟨hidentifier, hoptions, hvalues, hlengths, hbounds, hrows⟩

/-- Of three fields that are the same the last two are reported. -/
example :
    let f : Field := { id := "a", kind := .text, label := "", name := "x" }
    ({ fields := [f, f, f] } : Form).check =
      [.duplicateId "a", .duplicateName "x", .duplicateId "a", .duplicateName "x"] := by
  decide

end Form

end FormCompiler
