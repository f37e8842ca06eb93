import FormCompiler.Proofs.DocumentReading
import FormCompiler.Proofs.ValueReading

/-! Reading undoes writing for exchange documents. What cannot be read would be replaced by a default
without a word, so every member is followed from where it is written to where it is read. The members
of a record may come in any order; what they hold is kept as it is. -/

namespace FormCompiler

namespace Json

/-- An object and the same object with its members in another order. -/
inductive Reordered : Json → Json → Prop
  | object {ms ns : List (String × Json)} (h : ms.Perm ns) : Reordered (.object ms) (.object ns)

theorem Reordered.exists_lookup {ms : List (String × Json)} {v : Json}
    (h : Reordered (.object ms) v) (hkeys : (ms.map Prod.fst).Nodup) :
    ∃ ns, v = .object ns ∧ ∀ key, ns.lookup key = ms.lookup key := by
  cases h with
  | object hperm => exact ⟨_, rfl, fun key => (Alike.lookup_of_perm hkeys hperm key).symm⟩

theorem Reordered.alike {ms : List (String × Json)} {v : Json} (h : Reordered (.object ms) v)
    (hkeys : (ms.map Prod.fst).Nodup) : Alike (.object ms) v := by
  cases h with
  | object hperm =>
    exact .of_perm hkeys hperm (List.forall₂_same.mpr fun m _ => ⟨rfl, .refl m.2⟩)

end Json

namespace Exchange

open Json

theorem orDefault_of_ok {α : Type} [Inhabited α] {read : Json → Except Fault α} {v : Json}
    {a fallback : α} (h : read v = .ok a) : orDefault read fallback (some v) = a := by
  simp only [orDefault, h]

@[simp]
theorem orDefault_string (fallback s : String) :
    orDefault readString fallback (some (.string s)) = s := rfl

@[simp]
theorem orDefault_optionalString (fallback value : Option String) :
    orDefault (readOptional readString) fallback (some ((value.map .string).getD .null)) = value := by
  cases value <;> rfl

@[simp]
theorem orDefault_values (fallback vs : List Json) :
    orDefault (readList Source.value) fallback (some (.array vs)) = vs := by
  have hitems : vs.mapM Source.value = (.ok vs : Except Fault (List Json)) := by
    rw [mapM_eq_ok_iff, List.forall₂_same]
    exact fun v _ => rfl
  exact orDefault_of_ok (readList_eq_ok_iff.mpr ⟨vs, rfl, hitems⟩)

theorem restores_lenient {α : Type} {read : Json → Except Fault α} {written : Json} {a fallback : α}
    (h : Restores read written a) : Restores (readLenient read fallback) written a := by
  intro v hv
  have hvalue : Source.value v = .ok v := rfl
  simp only [readLenient, hvalue, bind, Except.bind, h v hv]
  rfl

theorem Project.restores (p : Project) : Restores read p.toJson p := by
  intro v hv
  obtain ⟨ns, rfl, hns⟩ := hv.exists_object
  rw [read, readRecord_object]
  set r := Record.ofMembers ["id", "name"] ns
  have hid : r.optional "id" 10001 (readLenient readUInt64 0) = .ok p.id :=
    Record.optional_restores (by simpa [List.lookup_cons] using hns "id")
      (restores_lenient (restores_uint64 _))
  have hname : r.optional "name" "Dynamic Form Builder" (readLenient readString "") = .ok p.name :=
    Record.optional_restores (by simpa [List.lookup_cons] using hns "name")
      (restores_lenient (restores_string _))
  rw [hid, hname]
  rfl

theorem Header.read_of_reordered {h : Header} {v : Json} (hv : h.toJson.Reordered v) :
    read v = .ok h := by
  obtain ⟨ns, rfl, hns⟩ := hv.exists_lookup (by simp)
  rw [read, readRecord_object]
  simp only [optional_value, Placed.map_ok, Placed.seq_ok, Placed.result_ok, hns]
  simp [List.lookup_cons]

theorem TypeSpec.read_of_reordered {s : TypeSpec} {v : Json} (h : s.toJson.Reordered v) :
    read v = .ok s := by
  obtain ⟨ns, rfl, hns⟩ := h.exists_lookup (by simp)
  rw [read_object rfl, ofObject]
  simp only [member?, hns]
  simp [List.lookup_cons]

/-- The values that an entry is written as, one for each order of the members. -/
def Entry.WrittenAs (e : Entry) (v : Json) : Prop :=
  ∃ spec, e.spec.toJson.Reordered spec ∧
    Reordered (.object [("FieldId", e.fieldId), ("FieldCaption", .string e.caption),
      ("FieldName", .string e.name), ("FieldType", spec)]) v

theorem Entry.isObject_of_writtenAs {e : Entry} {v : Json} (h : e.WrittenAs v) :
    v.isObject = true := by
  obtain ⟨_, _, hv⟩ := h
  cases hv
  rfl

theorem Entry.ofObject_of_writtenAs {e : Entry} {v : Json} (h : e.WrittenAs v) :
    ofObject v = e := by
  obtain ⟨spec, hspec, hv⟩ := h
  obtain ⟨ns, rfl, hns⟩ := hv.exists_lookup (by simp)
  have hread : TypeSpec.read spec = .ok e.spec := TypeSpec.read_of_reordered hspec
  rw [ofObject]
  simp only [member?, hns]
  simp [List.lookup_cons, orDefault_of_ok hread]

theorem Entry.map_ofObject_of_writtenAs {es : List Entry} {items : List Json}
    (h : List.Forall₂ WrittenAs es items) :
    (∀ item ∈ items, item.isObject = true) ∧ items.map ofObject = es := by
  induction h with
  | nil => simp
  | cons he _ ih =>
    constructor
    · exact List.forall_mem_cons.mpr ⟨isObject_of_writtenAs he, ih.1⟩
    · rw [List.map_cons, ofObject_of_writtenAs he, ih.2]

namespace Document

def WrittenAs (d : Document) (v : Json) : Prop :=
  ∃ project header items, d.project.toJson.Reordered project ∧ d.header.toJson.Reordered header ∧
    List.Forall₂ Entry.WrittenAs d.entries items ∧
    Reordered (.object [("project", project), ("Form", header), ("FormFields", .array items)]) v

theorem writtenAs_toJson (d : Document) : d.WrittenAs d.toJson := by
  refine ⟨_, _, _, .object (.refl _), .object (.refl _), ?_, .object (.refl _)⟩
  rw [List.forall₂_map_right_iff, List.forall₂_same]
  exact fun e _ => ⟨_, .object (.refl _), .object (.refl _)⟩

/-- A document is read back from the value that it is written as, and just as well when the members
of its records stand in another order. -/
theorem ofJson?_toJson (d : Document) :
    ofJson? d.toJson = some d ∧ ∀ v, d.WrittenAs v → ofJson? v = some d := by
  have hwritten : ∀ v, d.WrittenAs v → ofJson? v = some d := by
    rintro v ⟨project, header, items, hproject, hheader, hitems, hv⟩
    obtain ⟨ns, rfl, hns⟩ := hv.exists_lookup (by simp)
    obtain ⟨hobjects, hentries⟩ := Entry.map_ofObject_of_writtenAs hitems
    have hlist : ns.lookup "FormFields" = some (.array items) := by simp [hns, List.lookup_cons]
    have hproject : Project.read project = .ok d.project :=
      d.project.restores project (hproject.alike (by simp))
    have hheader : Header.read header = .ok d.header := Header.read_of_reordered hheader
    have hlists : ListsEntries (.object ns) items := ⟨hlist, hobjects⟩
    rw [ofJson?_of_listsEntries hlists, hentries]
    simp only [member?, hns]
    simp [List.lookup_cons, orDefault_of_ok hproject, orDefault_of_ok hheader]
  exact ⟨hwritten d.toJson d.writtenAs_toJson, hwritten⟩

/-- Values of every shape come back from an object with ascending keys: a missing type as null, a
number where a text is usual, and default values that are no options. -/
theorem ofJson?_toJson_ascending :
    let values : List Json := [.null, .object [("value", .ofNat 1), ("label", .array [])]]
    let e : Entry :=
      { fieldId := .array [.null], caption := "Age", name := ""
        spec := ⟨none, values, .bool false, "NUMBERONLY", .number (.float .one)⟩ }
    let d : Document := { project := ⟨0, ""⟩, header := ⟨.null, .object []⟩, entries := [e] }
    let spec : Json := .object
      [("DefaultValues", .array values), ("MaxLength", .bool false),
        ("Required", .number (.float .one)), ("Type", .null), ("ValueType", .string "NUMBERONLY")]
    let item : Json := .object
      [("FieldCaption", .string "Age"), ("FieldId", .array [.null]), ("FieldName", .string ""),
        ("FieldType", spec)]
    let header : Json := .object [("FormId", .null), ("FormName", .object [])]
    let v : Json := .object
      [("Form", header), ("FormFields", .array [item]), ("project", d.project.toJson)]
    d.WrittenAs v ∧ ofJson? v = some d := by
  intro values e d spec item header v
  have hspec : e.spec.toJson.Reordered spec := .object (by decide)
  have hitem : e.WrittenAs item := ⟨spec, hspec, .object (by decide)⟩
  have hv : d.WrittenAs v :=
    ⟨_, header, [item], .object (.refl _), .object (.refl _), .cons hitem .nil, .object (by decide)⟩
  exact ⟨hv, (ofJson?_toJson d).2 v hv⟩

end Document

end Exchange

end FormCompiler
