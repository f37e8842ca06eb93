import FormCompiler.Exchange.Import
import FormCompiler.Exchange.Json
import FormCompiler.Proofs.ExchangeProjection
import FormCompiler.Proofs.RecordReading

/-! Reading a document of any JSON. Only the list of entries can be missing. Beyond that each
member of an entry fills one slot, and a value that does not fit leaves all other slots alone. -/

namespace FormCompiler.Exchange

open Json

section Slots

variable {α : Type} [Inhabited α] (names : List String) (members : List (String × Json))

theorem optional_lenient (read : Json → Except Fault α) (fallback : α) (name : String) :
    (Record.ofMembers names members).optional name fallback (readLenient read fallback) =
      .ok (orDefault read fallback (members.lookup name)) := by
  have hread (v : Json) : readLenient read fallback v = .ok (orDefault read fallback (some v)) := by
    cases h : read v <;> simp [readLenient, orDefault, Source.value, h, bind, Except.bind, pure,
      Except.pure]
  rw [Record.optional_ofMembers names members hread]
  cases members.lookup name <;> rfl

theorem optional_value (name : String) :
    (Record.ofMembers names members).optional name .null Source.value =
      .ok ((members.lookup name).getD .null) := by
  have hread (v : Json) : Source.value v = .ok (id v) := rfl
  rw [Record.optional_ofMembers names members hread, Option.map_id, id]

end Slots

def TypeSpec.ofObject (v : Json) : TypeSpec where
  type := orDefault (readOptional readString) none (v.member? "Type")
  defaultValues := orDefault (readList Source.value) [] (v.member? "DefaultValues")
  maxLength := (v.member? "MaxLength").getD .null
  valueType := orDefault readString "" (v.member? "ValueType")
  required := (v.member? "Required").getD .null

def Entry.ofObject (v : Json) : Entry where
  fieldId := (v.member? "FieldId").getD .null
  caption := orDefault readString "" (v.member? "FieldCaption")
  name := orDefault readString "" (v.member? "FieldName")
  spec := orDefault TypeSpec.read {} (v.member? "FieldType")

theorem TypeSpec.read_object {v : Json} (h : v.isObject = true) : read v = .ok (ofObject v) := by
  obtain ⟨members, rfl⟩ := exists_members h
  rw [read, readRecord_object]
  simp only [optional_lenient, optional_value, Placed.map_ok, Placed.seq_ok, Placed.result_ok]
  rfl

theorem Entry.read_object {v : Json} (h : v.isObject = true) : read v = .ok (ofObject v) := by
  obtain ⟨members, rfl⟩ := exists_members h
  rw [read, readRecord_object]
  simp only [optional_lenient, optional_value, Placed.map_ok, Placed.seq_ok, Placed.result_ok]
  rfl

/-- The parts of an entry that say what type its field has, each from one member. -/
inductive SpecSlot
  | type | defaultValues | maxLength | valueType | required

namespace SpecSlot

def key : SpecSlot → String
  | type => "Type"
  | defaultValues => "DefaultValues"
  | maxLength => "MaxLength"
  | valueType => "ValueType"
  | required => "Required"

/-- The second, with this slot taken from the first. -/
def copy (slot : SpecSlot) (new old : TypeSpec) : TypeSpec :=
  match slot with
  | type => { old with type := new.type }
  | defaultValues => { old with defaultValues := new.defaultValues }
  | maxLength => { old with maxLength := new.maxLength }
  | valueType => { old with valueType := new.valueType }
  | required => { old with required := new.required }

theorem copy_self (slot : SpecSlot) (s : TypeSpec) : slot.copy s s = s := by
  cases slot <;> rfl

theorem ofObject_withMember (slot : SpecSlot) (value : Option Json) (v : Json) :
    TypeSpec.ofObject (v.withMember slot.key value) =
      slot.copy (TypeSpec.ofObject (v.withMember slot.key value)) (TypeSpec.ofObject v) := by
  cases slot <;> simp [TypeSpec.ofObject, copy, key, member?_withMember_of_ne]

/-- What is no object has no members to change and reads as before. -/
theorem read_withMember (slot : SpecSlot) (value : Option Json) (v : Json) :
    orDefault TypeSpec.read {} (some (v.withMember slot.key value)) =
      slot.copy (orDefault TypeSpec.read {} (some (v.withMember slot.key value)))
        (orDefault TypeSpec.read {} (some v)) := by
  by_cases h : v.isObject = true
  · have hnew : (v.withMember slot.key value).isObject = true := by rw [isObject_withMember, h]
    simp only [orDefault, TypeSpec.read_object h, TypeSpec.read_object hnew]
    exact slot.ofObject_withMember value v
  · have hsame : v.withMember slot.key value = v := by
      cases v with
      | object members => simp [isObject] at h
      | _ => rfl
    rw [hsame, copy_self]

end SpecSlot

inductive Slot
  | fieldId | caption | name
  | spec (slot : SpecSlot)

namespace Slot

/-- An entry with the member of a slot set to a value, or without that member. -/
def replace (slot : Slot) (value : Option Json) (item : Json) : Json :=
  match slot with
  | fieldId => item.withMember "FieldId" value
  | caption => item.withMember "FieldCaption" value
  | name => item.withMember "FieldName" value
  | spec slot =>
    match item.member? "FieldType" with
    | some v => item.withMember "FieldType" (some (v.withMember slot.key value))
    | none => item

def copy (slot : Slot) (new old : Entry) : Entry :=
  match slot with
  | fieldId => { old with fieldId := new.fieldId }
  | caption => { old with caption := new.caption }
  | name => { old with name := new.name }
  | spec slot => { old with spec := slot.copy new.spec old.spec }

/-- The second field, with what an entry's slot decides taken from the first. The placeholder
follows the caption, and whether there is one follows the kind. -/
def carry (slot : Slot) (new old : Field) : Field :=
  match slot with
  | fieldId => old
  | caption => { old with label := new.label, placeholder := new.placeholder }
  | name => { old with name := new.name }
  | spec .type => { old with kind := new.kind, placeholder := new.placeholder }
  | spec .defaultValues => { old with options := new.options }
  | spec .maxLength => { old with maxLength := new.maxLength }
  | spec .valueType => { old with valueType := new.valueType }
  | spec .required => { old with required := new.required }

theorem isObject_replace (slot : Slot) (value : Option Json) (item : Json) :
    (slot.replace value item).isObject = item.isObject := by
  cases slot with
  | spec slot =>
    simp only [replace]
    cases item.member? "FieldType" with
    | none => rfl
    | some v => exact isObject_withMember _ _ item
  | _ => exact isObject_withMember _ _ item

theorem ofObject_replace (slot : Slot) (value : Option Json) (item : Json) :
    Entry.ofObject (slot.replace value item) =
      slot.copy (Entry.ofObject (slot.replace value item)) (Entry.ofObject item) := by
  cases slot with
  | fieldId | caption | name => simp [Entry.ofObject, copy, replace, member?_withMember_of_ne]
  | spec slot =>
    cases hspec : item.member? "FieldType" with
    | none => simp [replace, hspec, copy, SpecSlot.copy_self]
    | some v =>
      have hobject : item.isObject = true := isObject_of_member? hspec
      have hread := slot.read_withMember value v
      simp only [Entry.ofObject, copy, replace, hspec, member?_withMember_self hobject, ← hread]
      simp [member?_withMember_of_ne]

theorem toField_copy (slot : Slot) (new old : Entry) (position : Nat) :
    (slot.copy new old).toField position =
      slot.carry ((slot.copy new old).toField position) (old.toField position) := by
  cases slot with
  | spec slot => cases slot <;> rfl
  | _ => rfl

end Slot

/-- An object whose list of fields has these items, objects all of them. -/
def ListsEntries (v : Json) (items : List Json) : Prop :=
  v.member? "FormFields" = some (.array items) ∧ ∀ item ∈ items, item.isObject = true

namespace Document

variable {v : Json} {items : List Json}

theorem ofJson?_of_listsEntries (h : ListsEntries v items) :
    ofJson? v = some
      { project := orDefault Project.read {} (v.member? "project")
        header := orDefault Header.read {} (v.member? "Form")
        entries := items.map Entry.ofObject } := by
  have hall : items.all Json.isObject = true := List.all_eq_true.mpr h.2
  have hentries : (items.map fun item => orDefault Entry.read {} (some item)) =
      items.map Entry.ofObject := by
    apply List.map_congr_left
    intro item hitem
    simp only [orDefault, Entry.read_object (h.2 item hitem)]
  simp only [ofJson?, h.1, hall, if_true, hentries]

theorem exists_ofJson?_iff (v : Json) :
    (∃ d, ofJson? v = some d) ↔ ∃ items, ListsEntries v items := by
  constructor
  · rintro ⟨d, hd⟩
    unfold ofJson? at hd
    split at hd
    · next items hlist =>
      by_cases hall : items.all Json.isObject = true
      · exact ⟨items, hlist, List.all_eq_true.mp hall⟩
      · rw [if_neg hall] at hd
        simp at hd
    · simp at hd
  · rintro ⟨items, h⟩
    exact ⟨_, ofJson?_of_listsEntries h⟩

theorem parse_missing_iff {text : String} (h : Json.ofText text = .ok v) :
    parse text = .error .missingFieldList ↔ ¬ ∃ items, ListsEntries v items := by
  rw [← exists_ofJson?_iff]
  cases hd : ofJson? v <;> simp [parse, h, hd]

theorem listsEntries_set (h : ListsEntries v items) {changed : Json}
    (hchanged : changed.isObject = true) (i : Nat) :
    ListsEntries (v.withMember "FormFields" (some (.array (items.set i changed))))
      (items.set i changed) := by
  refine ⟨member?_withMember_self (isObject_of_member? h.1) _, ?_⟩
  intro item hitem
  rcases List.mem_or_eq_of_mem_set hitem with hold | rfl
  · exact h.2 item hold
  · exact hchanged

/-- One item put in the place of another changes one entry and neither the project nor the
header. -/
theorem ofJson?_set (h : ListsEntries v items) {d : Document} (hd : ofJson? v = some d)
    {changed : Json} (hchanged : changed.isObject = true) (i : Nat) :
    ofJson? (v.withMember "FormFields" (some (.array (items.set i changed)))) =
      some { d with entries := d.entries.set i (Entry.ofObject changed) } := by
  rw [ofJson?_of_listsEntries h, Option.some.injEq] at hd
  rw [ofJson?_of_listsEntries (listsEntries_set h hchanged i), ← hd]
  have hproject : "project" ≠ "FormFields" := by decide
  have hheader : "Form" ≠ "FormFields" := by decide
  simp only [member?_withMember_of_ne hproject, member?_withMember_of_ne hheader, List.map_set]

theorem toImported_set (d : Document) (i : Nat) (e : Entry) :
    ({ d with entries := d.entries.set i e } : Document).toImported =
      { d.toImported with fields := d.toImported.fields.set i (e.toField (i + 1)) } := by
  have hfields : ({ d with entries := d.entries.set i e } : Document).toImported.fields =
      d.toImported.fields.set i (e.toField (i + 1)) := by
    rw [toImported_fields, toImported_fields, List.mapIdx_set]
  have hnext : ({ d with entries := d.entries.set i e } : Document).toImported.nextId =
      d.toImported.nextId := by
    simp only [toImported, List.length_set]
  calc ({ d with entries := d.entries.set i e } : Document).toImported
      = ⟨d.formName?, ({ d with entries := d.entries.set i e } : Document).toImported.fields,
          ({ d with entries := d.entries.set i e } : Document).toImported.nextId⟩ := rfl
    _ = _ := by rw [hfields, hnext]; rfl

/-- A document is read from any object that lists objects, and from nothing else. Each item makes
the entry at its place, by itself and without fail; a slot of an item that is set to another value,
or emptied, decides no more than this slot of the entry and what a field takes from it. -/
theorem reading_isolates_slots (v : Json) :
    ((∃ d, ofJson? v = some d) ↔ ∃ items, ListsEntries v items) ∧
    (∀ text, Json.ofText text = .ok v →
      (parse text = .error .missingFieldList ↔ ¬ ∃ items, ListsEntries v items)) ∧
    ∀ items, ListsEntries v items → ∃ d, ofJson? v = some d ∧
      d.entries = items.map Entry.ofObject ∧
      (∀ item ∈ items, Entry.read item = .ok (Entry.ofObject item)) ∧
      ∀ (slot : Slot) (value : Option Json) (i : Nat) (item : Json), items[i]? = some item →
        let old := Entry.ofObject item
        let new := Entry.ofObject (slot.replace value item)
        let changed : Document := { d with entries := d.entries.set i (slot.copy new old) }
        ofJson? (v.withMember "FormFields"
          (some (.array (items.set i (slot.replace value item))))) = some changed ∧
        changed.toImported =
          { d.toImported with
            fields := d.toImported.fields.set i
              (slot.carry (new.toField (i + 1)) (old.toField (i + 1))) } := by
  refine ⟨exists_ofJson?_iff v, fun text => parse_missing_iff, fun items h => ?_⟩
  obtain ⟨d, hd, hentries⟩ : ∃ d, ofJson? v = some d ∧ d.entries = items.map Entry.ofObject :=
    ⟨_, ofJson?_of_listsEntries h, rfl⟩
  refine ⟨d, hd, hentries, fun item hitem => Entry.read_object (h.2 item hitem), ?_⟩
  intro slot value i item hitem old new changed
  have hobject : (slot.replace value item).isObject = true := by
    rw [slot.isObject_replace, h.2 item (List.mem_of_getElem? hitem)]
  have hnew : slot.copy new old = new := (slot.ofObject_replace value item).symm
  have hfield : slot.carry (new.toField (i + 1)) (old.toField (i + 1)) = new.toField (i + 1) := by
    have hcopy := slot.toField_copy new old (i + 1)
    rw [hnew] at hcopy
    exact hcopy.symm
  have hchanged : changed = { d with entries := d.entries.set i new } := by rw [← hnew]
  rw [hfield, hchanged]
  exact ⟨ofJson?_set h hd hobject i, toImported_set d i new⟩

/-- A caption that is no text is read as an empty one, and the name beside it is kept. -/
example :
    (ofJson? (.object [("FormFields", .array [.object
      [("FieldCaption", .bool true), ("FieldName", .string "age")]])])).map Document.entries =
      some [{ name := "age" }] := by decide

end Document

end FormCompiler.Exchange
