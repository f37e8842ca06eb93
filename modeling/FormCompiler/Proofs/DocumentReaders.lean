import FormCompiler.Proofs.DocumentReading
import FormCompiler.Proofs.ValueReading

/-! Two readers of documents. One takes the members of an object by hand, the other reads a document
as it reads every record. Where the first gives a document the second gives the same one; the second
also takes documents that are no objects, or whose entries are not. -/

namespace FormCompiler

namespace Json

/-- A record whose other parts are read is read when the last, which has to be there, is. -/
theorem Record.seq_required_eq_ok_iff {α β : Type} {names : List String}
    {members : List (String × Json)} {key : String} {read : Json → Except Fault α}
    {make : α → β} {b : β} :
    ((Placed.ok make : Placed (α → β)) <*> (ofMembers names members).required key read).result
        = .ok b ↔ ∃ v a, members.lookup key = some v ∧ read v = .ok a ∧ make a = b := by
  cases hv : members.lookup key with
  | none =>
    have hpart : (ofMembers names members).part? key = none := by
      rw [← Option.map_eq_none_iff, part?_ofMembers, hv]
    simp [required, hpart, Placed.result, Placed.fail, Except.mapError, Seq.seq, Placed.both,
      Placed.ok]
  | some v =>
    obtain ⟨place, hpart⟩ := exists_part?_of_lookup names hv
    cases ha : read v <;>
      simp [required, hpart, ha, Placed.result, Placed.of, Except.mapError, Seq.seq, Placed.both,
        Placed.ok]

end Json

namespace Exchange

open Json

theorem Entry.mapM_read_objects {items : List Json} (h : ∀ item ∈ items, item.isObject = true) :
    items.mapM read = .ok (items.map ofObject) := by
  rw [mapM_eq_ok_iff, List.forall₂_map_right_iff, List.forall₂_same]
  exact fun item hitem => read_object (h item hitem)

namespace Document

/-- Of the members of an object only the list of entries can keep a document from being read. -/
theorem read_object_eq_ok_iff {members : List (String × Json)} {d : Document} :
    read (Json.object members) = .ok d ↔
      d.project = orDefault Project.read {} (members.lookup "project") ∧
      d.header = orDefault Header.read {} (members.lookup "Form") ∧
      ∃ list, members.lookup "FormFields" = some list ∧
        readList Entry.read list = .ok d.entries := by
  rw [read, readRecord_object]
  simp only [optional_lenient, Placed.map_ok, Placed.seq_ok]
  rw [Record.seq_required_eq_ok_iff]
  constructor
  · rintro ⟨list, entries, hlist, hentries, rfl⟩
    exact ⟨rfl, rfl, list, hlist, hentries⟩
  · rintro ⟨hproject, hheader, list, hlist, hentries⟩
    exact ⟨list, d.entries, hlist, hentries, by rw [← hproject, ← hheader]⟩

/-- Where the entries are objects each of them is read, and the two readers do the same. -/
theorem read_eq_ok_iff_of_listsEntries {v : Json} {items : List Json} (h : ListsEntries v items)
    {d : Document} : read v = .ok d ↔ ofJson? v = some d := by
  obtain ⟨members, rfl⟩ := exists_members (isObject_of_member? h.1)
  have hlist : members.lookup "FormFields" = some (.array items) := h.1
  have hentries : readList Entry.read (Json.array items) = .ok (items.map Entry.ofObject) :=
    readList_eq_ok_iff.mpr ⟨items, rfl, Entry.mapM_read_objects h.2⟩
  rw [read_object_eq_ok_iff, ofJson?_of_listsEntries h]
  constructor
  · rintro ⟨hproject, hheader, _, hfound, hread⟩
    obtain rfl := Option.some.inj (hlist.symm.trans hfound)
    have he : items.map Entry.ofObject = d.entries := Except.ok.inj (hentries.symm.trans hread)
    simp only [member?, ← hproject, ← hheader, he]
  · intro hd
    obtain rfl := Option.some.inj hd
    exact ⟨rfl, rfl, _, hlist, hentries⟩

/-- A document of the first reader is one of the second as well. The converse needs that the value
is an object and that no entry in its list, if it has one, is anything else. -/
theorem ofJson?_eq_some_iff_read (v : Json) (d : Document) :
    ofJson? v = some d ↔ read v = .ok d ∧ v.isObject = true ∧
      ∀ items, v.member? "FormFields" = some (.array items) →
        ∀ item ∈ items, item.isObject = true := by
  constructor
  · intro hd
    obtain ⟨items, hitems⟩ := (exists_ofJson?_iff v).mp ⟨d, hd⟩
    refine ⟨(read_eq_ok_iff_of_listsEntries hitems).mpr hd, isObject_of_member? hitems.1, ?_⟩
    intro others hothers
    have he : items = others := by simpa [hitems.1] using hothers
    rw [← he]
    exact hitems.2
  · rintro ⟨hread, hobject, hall⟩
    obtain ⟨members, rfl⟩ := exists_members hobject
    obtain ⟨_, _, list, hlist, hentries⟩ := read_object_eq_ok_iff.mp hread
    obtain ⟨items, rfl, _⟩ := readList_eq_ok_iff.mp hentries
    have hitems : ListsEntries (.object members) items := ⟨hlist, hall items hlist⟩
    exact (read_eq_ok_iff_of_listsEntries hitems).mp hread

/-- A document written as a list of its parts is read as a record only. -/
example :
    let v : Json := .array [.null, .array [.null, .string "Trip"], .array [.array []]]
    read v = .ok { header := ⟨.null, .string "Trip"⟩, entries := [{}] } ∧ ofJson? v = none := by
  decide

end Document

end Exchange

end FormCompiler
