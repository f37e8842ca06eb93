import FormCompiler.Proofs.RequiredFields

/-! Entries of a schema that share a name. The last of them is the one that is found, but values
are checked against all of them. Both come to the same exactly as long as the values pass the
entries that later ones override. -/

namespace FormCompiler

namespace Schema

/-- The entries that have a later one with their name. -/
def overridden : List SchemaEntry → List SchemaEntry
  | [] => []
  | e :: rest =>
    if e.name ∈ rest.map SchemaEntry.name then e :: overridden rest else overridden rest

def lastEntries : List SchemaEntry → List SchemaEntry
  | [] => []
  | e :: rest =>
    if e.name ∈ rest.map SchemaEntry.name then lastEntries rest else e :: lastEntries rest

/-- The schema with the last entry of each name. -/
def lastOnly (s : Schema) : Schema := ⟨lastEntries s.entries⟩

theorem overridden_append_lastEntries (entries : List SchemaEntry) :
    (overridden entries ++ lastEntries entries).Perm entries := by
  induction entries with
  | nil => exact List.Perm.refl _
  | cons e rest ih =>
    by_cases he : e.name ∈ rest.map SchemaEntry.name
    · rw [overridden, if_pos he, lastEntries, if_pos he]
      exact ih.cons e
    · rw [overridden, if_neg he, lastEntries, if_neg he]
      exact List.perm_middle.trans (ih.cons e)

theorem mem_names_lastEntries_iff {entries : List SchemaEntry} {name : String} :
    name ∈ (lastEntries entries).map SchemaEntry.name ↔ name ∈ entries.map SchemaEntry.name := by
  induction entries with
  | nil => rfl
  | cons e rest ih =>
    by_cases he : e.name ∈ rest.map SchemaEntry.name
    · rw [lastEntries, if_pos he, ih, List.map_cons, List.mem_cons]
      constructor
      · exact Or.inr
      · rintro (rfl | hrest)
        · exact he
        · exact hrest
    · rw [lastEntries, if_neg he, List.map_cons, List.mem_cons, ih, List.map_cons, List.mem_cons]

theorem names_lastEntries_nodup (entries : List SchemaEntry) :
    ((lastEntries entries).map SchemaEntry.name).Nodup := by
  induction entries with
  | nil => exact List.nodup_nil
  | cons e rest ih =>
    by_cases he : e.name ∈ rest.map SchemaEntry.name
    · rwa [lastEntries, if_pos he]
    · rw [lastEntries, if_neg he, List.map_cons, List.nodup_cons, mem_names_lastEntries_iff]
      exact ⟨he, ih⟩

theorem get?_lastOnly (s : Schema) (name : String) : s.lastOnly.get? name = s.get? name := by
  have hfind (entries : List SchemaEntry) :
      (lastEntries entries).reverse.find? (fun e => e.name == name) =
        entries.reverse.find? fun e => e.name == name := by
    induction entries with
    | nil => rfl
    | cons e rest ih =>
      by_cases he : e.name ∈ rest.map SchemaEntry.name
      · rw [lastEntries, if_pos he, ih, List.reverse_cons, List.find?_append]
        by_cases hname : e.name = name
        · obtain ⟨later, hlater, hsame⟩ := List.mem_map.mp he
          have hfound : (rest.reverse.find? fun e => e.name == name).isSome = true :=
            List.find?_isSome.mpr ⟨later, List.mem_reverse.mpr hlater, by simp [hsame, hname]⟩
          rw [Option.or_of_isSome hfound]
        · simp [hname]
      · rw [lastEntries, if_neg he, List.reverse_cons, List.reverse_cons, List.find?_append,
          List.find?_append, ih]
  rw [get?, get?, lastOnly, hfind]

theorem filter_lastEntries {entries : List SchemaEntry} {p : SchemaEntry → Bool}
    (h : ∀ e ∈ overridden entries, p e = false) :
    (lastEntries entries).filter p = entries.filter p := by
  induction entries with
  | nil => rfl
  | cons e rest ih =>
    by_cases he : e.name ∈ rest.map SchemaEntry.name
    · rw [overridden, if_pos he] at h
      have hfirst : p e = false := h e List.mem_cons_self
      have hrest := ih fun later hlater => h later (List.mem_cons_of_mem e hlater)
      rw [lastEntries, if_pos he, hrest, List.filter_cons_of_neg (by simp [hfirst])]
    · rw [overridden, if_neg he] at h
      rw [lastEntries, if_neg he, List.filter_cons, List.filter_cons, ih h]

end Schema

/-! ## Reports -/

/-- Whether the values lack what the entry asks for or fail its rule. -/
def SchemaEntry.fails (values : Json) (e : SchemaEntry) : Bool :=
  e.isMissing values || (e.error? values).isSome

theorem SchemaEntry.error?_of_isMissing {values : Json} {e : SchemaEntry}
    (h : e.isMissing values = true) : e.error? values = none := by
  rw [isMissing, Bool.and_eq_true, Option.isNone_iff_eq_none] at h
  rw [error?, h.1]
  rfl

namespace Verdict

/-- The names that a verdict has something against, once for each time. -/
def reported (v : Verdict) : List String := v.missingRequired ++ v.errors.map ValueError.field

/-- Two verdicts that accept alike and have the same kind of thing against each name. -/
structure Agrees (v w : Verdict) : Prop where
  valid : v.valid = w.valid
  missing : ∀ name, name ∈ v.missingRequired ↔ name ∈ w.missingRequired
  errors : ∀ name, (∃ e ∈ v.errors, e.field = name) ↔ ∃ e ∈ w.errors, e.field = name

theorem Agrees.refl (v : Verdict) : v.Agrees v := ⟨rfl, fun _ => Iff.rfl, fun _ => Iff.rfl⟩

theorem Agrees.mem_reported_iff {v w : Verdict} (h : v.Agrees w) (name : String) :
    name ∈ v.reported ↔ name ∈ w.reported := by
  simp only [reported, List.mem_append, List.mem_map, h.missing, h.errors]

theorem valid_iff (v : Verdict) : v.valid = true ↔ v.reported = [] ∧ v.unknownFields = [] := by
  simp only [valid, reported, Bool.and_eq_true, List.isEmpty_iff, List.append_eq_nil_iff,
    List.map_eq_nil_iff]
  exact and_congr_left' and_comm

end Verdict

namespace Schema

variable (s : Schema) (values : Json)

/-- Each entry that fails is reported once, in one of the two ways. -/
theorem reported_perm :
    (s.validate values).reported.Perm
      ((s.entries.filter (SchemaEntry.fails values)).map SchemaEntry.name) := by
  have hentries (entries : List SchemaEntry) :
      ((entries.filter (SchemaEntry.isMissing values)).map SchemaEntry.name ++
        (entries.filterMap (SchemaEntry.error? values)).map ValueError.field).Perm
      ((entries.filter (SchemaEntry.fails values)).map SchemaEntry.name) := by
    induction entries with
    | nil => exact List.Perm.refl _
    | cons e rest ih =>
      by_cases hmissing : e.isMissing values = true
      · have herror := SchemaEntry.error?_of_isMissing hmissing
        simpa [hmissing, herror, SchemaEntry.fails] using ih
      · cases herror : e.error? values with
        | none => simpa [hmissing, herror, SchemaEntry.fails] using ih
        | some err =>
          have hfield := SchemaEntry.error?_field herror
          simpa [hmissing, herror, SchemaEntry.fails, hfield] using
            List.perm_middle.trans (ih.cons e.name)
  exact hentries s.entries

theorem reported_lastOnly_nodup : (s.lastOnly.validate values).reported.Nodup := by
  rw [(s.lastOnly.reported_perm values).nodup_iff]
  exact (names_lastEntries_nodup s.entries).sublist (List.filter_sublist.map _)

/-- What is reported is what the overridden entries add to the report of the last ones. -/
theorem reported_perm_lastOnly :
    (s.validate values).reported.Perm
      (((overridden s.entries).filter (SchemaEntry.fails values)).map SchemaEntry.name ++
        (s.lastOnly.validate values).reported) := by
  have hsplit := ((overridden_append_lastEntries s.entries).filter
    (SchemaEntry.fails values)).map SchemaEntry.name
  rw [List.filter_append, List.map_append] at hsplit
  have hlast := s.lastOnly.reported_perm values
  exact (s.reported_perm values).trans (hsplit.symm.trans (hlast.symm.append_left _))

theorem unknownFields_lastOnly :
    (s.lastOnly.validate values).unknownFields = (s.validate values).unknownFields := by
  have hnames (key : String) : s.lastOnly.names.contains key = s.names.contains key := by
    rw [Bool.eq_iff_iff, List.contains_iff_mem, List.contains_iff_mem]
    exact mem_names_lastEntries_iff
  simp only [validate, hnames]

variable {s values}

/-- An entry that does not fail leaves no trace in the verdict. -/
theorem validate_eq_of_filter {t : Schema}
    (hfails : s.entries.filter (SchemaEntry.fails values) =
      t.entries.filter (SchemaEntry.fails values))
    (hunknown : (s.validate values).unknownFields = (t.validate values).unknownFields) :
    s.validate values = t.validate values := by
  have hmissing (entries : List SchemaEntry) : entries.filter (SchemaEntry.isMissing values) =
      (entries.filter (SchemaEntry.fails values)).filter (SchemaEntry.isMissing values) := by
    rw [List.filter_filter]
    apply List.filter_congr
    intro e _
    cases h : e.isMissing values <;> simp [SchemaEntry.fails, h]
  have herrors (entries : List SchemaEntry) : entries.filterMap (SchemaEntry.error? values) =
      (entries.filter (SchemaEntry.fails values)).filterMap (SchemaEntry.error? values) := by
    rw [List.filterMap_filter]
    apply List.filterMap_congr
    intro e _
    cases h : e.error? values <;> simp [SchemaEntry.fails, h]
  have heq : (s.validate values).missingRequired = (t.validate values).missingRequired ∧
      (s.validate values).errors = (t.validate values).errors := by
    simp only [validate]
    rw [hmissing s.entries, hmissing t.entries, herrors s.entries, herrors t.entries, hfails]
    exact ⟨rfl, rfl⟩
  calc s.validate values
      = ⟨(s.validate values).errors, (s.validate values).missingRequired,
          (s.validate values).unknownFields⟩ := rfl
    _ = t.validate values := by rw [heq.1, heq.2, hunknown]

theorem validate_eq_lastOnly (h : ∀ e ∈ overridden s.entries, e.fails values = false) :
    s.validate values = s.lastOnly.validate values :=
  validate_eq_of_filter (filter_lastEntries h).symm (s.unknownFields_lastOnly values).symm

/-- Where the verdicts agree the last entry of a name fails as well, and the name is there twice. -/
theorem overridden_pass_of_agrees
    (hagree : (s.validate values).Agrees (s.lastOnly.validate values))
    (honce : (s.validate values).reported.Nodup) :
    ∀ e ∈ overridden s.entries, e.fails values = false := by
  intro e he
  by_contra hfails
  have hperm := s.reported_perm_lastOnly values
  have hname : e.name ∈
      ((overridden s.entries).filter (SchemaEntry.fails values)).map SchemaEntry.name :=
    List.mem_map_of_mem (List.mem_filter.mpr ⟨he, by simpa using hfails⟩)
  have hlast : e.name ∈ (s.lastOnly.validate values).reported :=
    (hagree.mem_reported_iff e.name).mp (hperm.mem_iff.mpr (List.mem_append_left _ hname))
  exact List.disjoint_of_nodup_append (hperm.nodup_iff.mp honce) hname hlast

theorem valid_lastOnly (h : (s.validate values).valid = true) :
    (s.lastOnly.validate values).valid = true := by
  rw [Verdict.valid_iff] at h ⊢
  have hnil := h.1 ▸ s.reported_perm_lastOnly values
  rw [List.nil_perm, List.append_eq_nil_iff] at hnil
  rw [unknownFields_lastOnly]
  exact ⟨hnil.2, h.2⟩

end Schema

/-- The schema of the last fields finds the same rules and reports no name twice. The whole schema
agrees with it on values, and reports no name twice, exactly if the values do not fail a field that
a later one overrides; then the verdicts are one. Otherwise it can only be stricter. -/
theorem Form.last_field_decides_iff (form : Form) (values : Json) :
    let s := form.schema
    let all := s.validate values
    let last := s.lastOnly.validate values
    (∀ name, s.lastOnly.get? name = s.get? name) ∧ s.lastOnly.names.Nodup ∧
    last.reported.Nodup ∧ (all.valid = true → last.valid = true) ∧
    (all = last ↔ ∀ e ∈ Schema.overridden s.entries, e.fails values = false) ∧
    (all.Agrees last ∧ all.reported.Nodup ↔
      ∀ e ∈ Schema.overridden s.entries, e.fails values = false) := by
  intro s all last
  have honce : last.reported.Nodup := s.reported_lastOnly_nodup values
  have hequal : (∀ e ∈ Schema.overridden s.entries, e.fails values = false) → all = last :=
    Schema.validate_eq_lastOnly
  have hagree (h : all = last) : all.Agrees last ∧ all.reported.Nodup := by
    rw [h]
    exact ⟨.refl last, honce⟩
  have hpass (h : all.Agrees last ∧ all.reported.Nodup) :
      ∀ e ∈ Schema.overridden s.entries, e.fails values = false :=
    Schema.overridden_pass_of_agrees h.1 h.2
  exact ⟨s.get?_lastOnly, Schema.names_lastEntries_nodup s.entries, honce, Schema.valid_lastOnly,
    ⟨fun h => hpass (hagree h), hequal⟩, ⟨hpass, fun h => hagree (hequal h)⟩⟩

/-- A field that must be filled in is reported though the last field of its name need not be, and
two that must be are reported twice. -/
theorem Form.overridden_field_reported :
    let needed : Field :=
      { id := "element-1", kind := .text, label := "Mail", name := "mail", required := true }
    let spare : Field := { id := "element-2", kind := .text, label := "Mail", name := "mail" }
    let first : Form := { fields := [needed, spare] }
    let twice : Form := { fields := [needed, { needed with id := "element-2" }] }
    (first.schema.validate (.object [])).valid = false ∧
      (first.schema.lastOnly.validate (.object [])).valid = true ∧
      (first.schema.validate (.object [])).missingRequired = ["mail"] ∧
      (first.schema.lastOnly.validate (.object [])).missingRequired = [] ∧
      (twice.schema.validate (.object [])).missingRequired = ["mail", "mail"] := by
  decide

end FormCompiler
