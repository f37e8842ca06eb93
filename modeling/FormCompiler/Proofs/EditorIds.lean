import FormCompiler.Proofs.EditorRuns
import FormCompiler.Proofs.ExchangeProjection
import Mathlib.Data.List.Fold
import Mathlib.Data.List.MinMax

/-! The ids of fields over a run of edits. No two fields share one, the counter stays above all
that it could give out again, and the books balance: what is there in the end is what was there
and what was given out, without what was taken away. -/

namespace FormCompiler

def Form.fieldIds (form : Form) : List String := form.fields.map Field.id

namespace Edit

/-- The id that an edit returns for a new field. -/
def issued (s : EditorState) : Edit → List String
  | .addField kind => [(s.addField kind).1]
  | _ => []

/-- The ids of the fields that an edit removes or wipes. -/
def dropped (s : EditorState) : Edit → List String
  | .removeField id => match s.removeField id with
    | .ok _ => [id]
    | .error _ => []
  | .clear => s.form.fieldIds
  | _ => []

end Edit

namespace EditorState

/-- What the edits of a run report in their order, each of the state that it finds. -/
def collect (report : EditorState → Edit → List String) (s : EditorState) : List Edit → List String
  | [] => []
  | e :: rest => report s e ++ collect report (s.step e) rest

def issuedIds : EditorState → List Edit → List String := collect fun s e => e.issued s

def droppedIds : EditorState → List Edit → List String := collect fun s e => e.dropped s

/-- The counter is above the ids that it could write. -/
def IdsBelow (s : EditorState) : Prop :=
  ∀ n < UInt64.size, elementId n ∈ s.form.fieldIds → n < s.ids.peek

/-- The ids of the fields are distinct, and the counter is above those that it could write. -/
structure Numbered (s : EditorState) : Prop where
  distinct : s.form.fieldIds.Nodup
  below : s.IdsBelow

/-- What becomes of ids and counter from one state to a later one. -/
structure Turnover (s t : EditorState) (issued dropped : List String) : Prop where
  distinct : s.form.fieldIds.Nodup → t.form.fieldIds.Nodup
  balance : (t.form.fieldIds ++ dropped).Perm (s.form.fieldIds ++ issued)
  counter : s.ids.peek ≤ t.ids.peek
  numbers : ∃ numbers : List Nat, issued = numbers.map elementId ∧
    numbers.Pairwise (· < ·) ∧ ∀ n ∈ numbers, s.ids.peek ≤ n ∧ n < t.ids.peek

variable {s t u : EditorState}

namespace Turnover

variable {issued dropped laterIssued laterDropped : List String}

theorem of_perm (hids : t.ids = s.ids) (h : (t.form.fieldIds ++ dropped).Perm s.form.fieldIds) :
    Turnover s t [] dropped where
  distinct hs := (List.nodup_append.mp (h.nodup_iff.mpr hs)).1
  balance := by simpa using h
  counter := by rw [hids]
  numbers := ⟨[], by simp⟩

theorem refl (s : EditorState) : Turnover s s [] [] := of_perm rfl (by simp)

/-- Counted id by id, the two balances are sums, and their sum is the balance of both together. -/
theorem trans (h : Turnover s t issued dropped) (h' : Turnover t u laterIssued laterDropped) :
    Turnover s u (issued ++ laterIssued) (dropped ++ laterDropped) where
  distinct hs := h'.distinct (h.distinct hs)
  balance := by
    rw [List.perm_iff_count]
    intro id
    have hfirst := h.balance.count_eq id
    have hlater := h'.balance.count_eq id
    simp only [List.count_append] at hfirst hlater ⊢
    omega
  counter := Nat.le_trans h.counter h'.counter
  numbers := by
    obtain ⟨first, rfl, hfirst, hbounds⟩ := h.numbers
    obtain ⟨later, rfl, hlater, hbounds'⟩ := h'.numbers
    refine ⟨first ++ later, by simp, List.pairwise_append.mpr ⟨hfirst, hlater, ?_⟩, ?_⟩
    · intro m hm n hn
      exact Nat.lt_of_lt_of_le (hbounds m hm).2 (hbounds' n hn).1
    · intro n hn
      rcases List.mem_append.mp hn with hn | hn
      · exact ⟨(hbounds n hn).1, Nat.lt_of_lt_of_le (hbounds n hn).2 h'.counter⟩
      · exact ⟨Nat.le_trans h.counter (hbounds' n hn).1, (hbounds' n hn).2⟩

end Turnover

/-- What a field has in common with the one that it replaces looks as before in all the fields. -/
theorem map_set_of_eq {α : Type} (look : Field → α) {fields : List Field} {index : Nat} {f g : Field}
    (hg : fields[index]? = some g) (hlook : look f = look g) :
    (fields.set index f).map look = fields.map look := by
  obtain ⟨hlt, rfl⟩ := List.getElem?_eq_some_iff.mp hg
  have hlt' : index < (fields.map look).length := by simpa using hlt
  have hsame : look f = (fields.map look)[index] := by rw [hlook, List.getElem_map]
  rw [List.map_set, hsame, List.set_getElem_self hlt']

theorem updateField_fieldIds {f : Field} (ht : s.updateField f = .ok t) :
    t.form.fieldIds = s.form.fieldIds := by
  obtain ⟨index, hpos, _, _, rfl⟩ := updateField_eq_ok_iff.mp ht
  obtain ⟨hlt, hid⟩ := Form.position?_eq_some hpos
  exact map_set_of_eq Field.id (List.getElem?_eq_getElem hlt) hid.symm

theorem updateField_turnover {f : Field} (ht : s.updateField f = .ok t) : Turnover s t [] [] := by
  have hids := updateField_fieldIds ht
  obtain ⟨_, _, _, _, rfl⟩ := updateField_eq_ok_iff.mp ht
  exact .of_perm rfl (by rw [List.append_nil, hids])

theorem addField_turnover (s : EditorState) (kind : FieldKind) :
    Turnover s (s.addField kind).2 [(s.addField kind).1] [] := by
  obtain ⟨hle, hfree, _⟩ := s.nextNumber_spec kind
  have hids : (s.addField kind).2.form.fieldIds =
      s.form.fieldIds ++ [elementId (s.nextNumber kind)] := by
    simp [Form.fieldIds, addField, Field.withDefaults]
  have hnext : (s.addField kind).2.ids.peek = s.nextNumber kind + 1 := rfl
  constructor
  case distinct =>
    intro hs
    rw [hids]
    exact (List.perm_append_singleton _ _).nodup_iff.mpr (List.nodup_cons.mpr ⟨hfree, hs⟩)
  case balance =>
    rw [hids, List.append_nil]
    exact List.Perm.refl _
  case counter => omega
  case numbers =>
    refine ⟨[s.nextNumber kind], rfl, List.pairwise_singleton _ _, ?_⟩
    intro n hn
    rw [List.mem_singleton.mp hn]
    omega

theorem apply_turnover {e : Edit} (he : e.isImport = false) (ht : s.apply e = .ok t) :
    Turnover s t (e.issued s) (e.dropped s) := by
  cases e with
  | addField kind =>
    obtain rfl := Except.ok.inj ht
    exact s.addField_turnover kind
  | updateField f => exact updateField_turnover ht
  | removeField id =>
    have hr : s.removeField id = .ok t := ht
    obtain ⟨index, hpos, rfl⟩ := removeField_eq_ok_iff.mp hr
    obtain ⟨hlt, rfl⟩ := Form.position?_eq_some hpos
    have hperm := (List.getElem_cons_eraseIdx_perm hlt).map Field.id
    simp only [Edit.issued, Edit.dropped, hr]
    exact .of_perm rfl ((List.perm_append_singleton _ _).trans hperm)
  | moveField source target =>
    have hperm := (moveField_perm ht).map Field.id
    obtain ⟨_, _, _, rfl⟩ := moveField_eq_ok_iff.mp ht
    exact .of_perm rfl (by simpa [Edit.dropped, Form.fieldIds] using hperm)
  | setLayout layout =>
    obtain rfl := Except.ok.inj ht
    exact .of_perm rfl (by simp [Edit.dropped, Form.fieldIds, setLayout])
  | setName name =>
    obtain ⟨_, rfl⟩ := setName_eq_ok_iff.mp ht
    exact .of_perm rfl (by simp [Edit.dropped, Form.fieldIds])
  | addOption id option =>
    obtain ⟨_, _, _, _, hu⟩ := addOption_eq_ok_iff.mp ht
    exact updateField_turnover hu
  | removeOption id index =>
    obtain ⟨_, _, _, hu⟩ := removeOption_eq_ok_iff.mp ht
    exact updateField_turnover hu
  | clear =>
    obtain rfl := Except.ok.inj ht
    exact .of_perm rfl (by simp [Edit.dropped, Form.fieldIds, clear, withFields])
  | importDocument d => simp [Edit.isImport] at he

theorem apply_error {e : Edit} {why : EditError} (ht : s.apply e = .error why) :
    e.issued s = [] ∧ e.dropped s = [] := by
  cases e with
  | addField kind => simp [apply] at ht
  | removeField id =>
    have hr : s.removeField id = .error why := ht
    simp [Edit.issued, Edit.dropped, hr]
  | clear => simp [apply] at ht
  | _ => exact ⟨rfl, rfl⟩

theorem step_turnover {e : Edit} (he : e.isImport = false) :
    Turnover s (s.step e) (e.issued s) (e.dropped s) := by
  rw [step]
  cases ht : s.apply e with
  | ok t => exact apply_turnover he ht
  | error why =>
    rw [(apply_error ht).1, (apply_error ht).2]
    exact .refl s

theorem run_turnover {edits : List Edit} (he : ∀ e ∈ edits, e.isImport = false) :
    Turnover s (s.run edits) (s.issuedIds edits) (s.droppedIds edits) := by
  induction edits generalizing s with
  | nil => exact .refl s
  | cons e rest ih =>
    have hrest : ∀ e' ∈ rest, e'.isImport = false := fun e' he' => he e' (by simp [he'])
    exact (step_turnover (he e (by simp))).trans (ih hrest)

/-- An id of the form with a number that was given out would lie below the counter. -/
theorem Turnover.issued_fresh {issued dropped : List String} (h : Turnover s t issued dropped)
    (hs : s.Numbered) (hfits : t.ids.peek < UInt64.size) : (s.form.fieldIds ++ issued).Nodup := by
  obtain ⟨numbers, rfl, hsorted, hbounds⟩ := h.numbers
  have hnumbers : numbers.Nodup := hsorted.imp fun hlt => Nat.ne_of_lt hlt
  have hissued : (numbers.map elementId).Nodup := hnumbers.map fun _ _ => elementId_injective
  refine List.nodup_append.mpr ⟨hs.distinct, hissued, ?_⟩
  rintro id hid _ hmem rfl
  obtain ⟨n, hn, rfl⟩ := List.mem_map.mp hmem
  have hbelow := hs.below n (Nat.lt_trans (hbounds n hn).2 hfits) hid
  have hle := (hbounds n hn).1
  omega

theorem Turnover.idsBelow {issued dropped : List String} (h : Turnover s t issued dropped)
    (hs : s.IdsBelow) : t.IdsBelow := by
  intro n hn hid
  have hmem : elementId n ∈ s.form.fieldIds ++ issued :=
    h.balance.mem_iff.mp (List.mem_append_left dropped hid)
  rcases List.mem_append.mp hmem with hold | hnew
  · exact Nat.lt_of_lt_of_le (hs n hn hold) h.counter
  · obtain ⟨numbers, rfl, _, hbounds⟩ := h.numbers
    obtain ⟨m, hm, he⟩ := List.mem_map.mp hnew
    rw [← elementId_injective he]
    exact (hbounds m hm).2

theorem importDocument_fieldIds (s : EditorState) (d : Exchange.Document) :
    (s.importDocument d).form.fieldIds =
      (List.range d.entries.length).map fun i => elementId (i + 1) := by
  have hfields : (s.importDocument d).form.fields =
      d.entries.mapIdx fun i e => e.toField (i + 1) := d.toImported_fields
  apply List.ext_getElem
  · simp [Form.fieldIds, hfields]
  · intro i hi hi'
    simp [Form.fieldIds, hfields, Exchange.Entry.toField]

theorem importDocument_fieldIds_nodup (s : EditorState) (d : Exchange.Document) :
    (s.importDocument d).form.fieldIds.Nodup := by
  rw [importDocument_fieldIds]
  exact List.nodup_range.map fun _ _ he => Nat.succ_injective (elementId_injective he)

theorem importDocument_idsBelow (s : EditorState) (d : Exchange.Document) :
    (s.importDocument d).IdsBelow := by
  intro n _ hid
  rw [importDocument_fieldIds] at hid
  obtain ⟨i, hi, he⟩ := List.mem_map.mp hid
  have hlt := List.mem_range.mp hi
  have hpeek : (s.importDocument d).ids.peek = max (d.entries.length + 1) 1 := rfl
  rw [← elementId_injective he, hpeek]
  omega

/-- A step takes its fields from a document, or it keeps the books. -/
theorem step_cases (s : EditorState) (e : Edit) :
    (∃ d, s.step e = s.importDocument d) ∨
      Turnover s (s.step e) (e.issued s) (e.dropped s) := by
  cases e with
  | importDocument d => exact Or.inl ⟨d, rfl⟩
  | _ => exact Or.inr (step_turnover rfl)

theorem step_idsBelow (h : s.IdsBelow) (e : Edit) : (s.step e).IdsBelow := by
  rcases s.step_cases e with ⟨d, hd⟩ | hturn
  · rw [hd]
    exact s.importDocument_idsBelow d
  · exact hturn.idsBelow h

theorem step_fieldIds_nodup (h : s.form.fieldIds.Nodup) (e : Edit) :
    (s.step e).form.fieldIds.Nodup := by
  rcases s.step_cases e with ⟨d, hd⟩ | hturn
  · rw [hd]
    exact s.importDocument_fieldIds_nodup d
  · exact hturn.distinct h

theorem run_numbered (h : s.Numbered) (edits : List Edit) : (s.run edits).Numbered :=
  run_induction h fun _ e _ hu => ⟨step_fieldIds_nodup hu.distinct e, step_idsBelow hu.below e⟩

theorem new_idsBelow : ({} : EditorState).IdsBelow := by simp [IdsBelow, Form.fieldIds]

theorem new_numbered : ({} : EditorState).Numbered := ⟨List.nodup_nil, new_idsBelow⟩

theorem ofForm_idsBelow (form : Form) : (ofForm form).IdsBelow := by
  intro n hn hid
  obtain ⟨f, hf, he⟩ := List.mem_map.mp hid
  let numbers := form.fields.filterMap fun f => elementNumber? f.id
  have hmem : n ∈ numbers :=
    List.mem_filterMap.mpr ⟨f, hf, by rw [he, elementNumber?_elementId hn]⟩
  have hle : n ≤ numbers.foldl max 0 := by
    rw [List.foldl_eq_foldr]
    exact List.le_max_of_le' 0 hmem (Nat.le_refl n)
  change n < max (numbers.foldl max 0 + 1) 1
  omega

theorem ofForm_numbered {form : Form} (h : form.fieldIds.Nodup) : (ofForm form).Numbered where
  distinct := h
  below := ofForm_idsBelow form

/-- Without the ids that were taken away, the balance has only the remaining ones on its left. -/
theorem Turnover.remaining {issued dropped : List String} (h : Turnover s t issued dropped)
    (hnd : (s.form.fieldIds ++ issued).Nodup) :
    t.form.fieldIds.Perm ((s.form.fieldIds ++ issued).filter (· ∉ dropped)) := by
  obtain ⟨_, _, hdisjoint⟩ := List.nodup_append.mp (h.balance.nodup_iff.mpr hnd)
  have hkept : t.form.fieldIds.filter (· ∉ dropped) = t.form.fieldIds := by
    rw [List.filter_eq_self]
    intro id hid
    simpa using fun hd => hdisjoint id hid id hd rfl
  have hgone : dropped.filter (· ∉ dropped) = [] := by simp
  have hfilter := h.balance.filter (· ∉ dropped)
  rwa [List.filter_append, hkept, hgone, List.append_nil] at hfilter

/-- Whatever the edits are and whichever of them fail, the ids of the fields are distinct, and the
counter is above those that it could write. Between two imports the numbers of the ids that are
given out only grow, and the form has just the ids that it had or that were given out and that
were not taken away, each once. -/
theorem run_ids_accounted {start s : EditorState} {before : List Edit}
    (hstart : start = {} ∨ ∃ form : Form, form.fieldIds.Nodup ∧ start = ofForm form)
    (hs : start.run before = s) :
    s.form.fieldIds.Nodup ∧
    (∀ n < UInt64.size, elementId n ∈ s.form.fieldIds → n < s.ids.peek) ∧
    ∀ stretch : List Edit, (∀ e ∈ stretch, e.isImport = false) →
      (∃ numbers : List Nat,
        s.issuedIds stretch = numbers.map elementId ∧ numbers.Pairwise (· < ·)) ∧
      ((s.run stretch).ids.peek < UInt64.size →
        (s.form.fieldIds ++ s.issuedIds stretch).Nodup ∧
        (s.run stretch).form.fieldIds.Perm
          ((s.form.fieldIds ++ s.issuedIds stretch).filter (· ∉ s.droppedIds stretch))) := by
  have hnew : start.Numbered := by
    rcases hstart with rfl | ⟨form, hform, rfl⟩
    · exact new_numbered
    · exact ofForm_numbered hform
  have h : s.Numbered := hs ▸ run_numbered hnew before
  refine ⟨h.distinct, h.below, fun stretch he => ?_⟩
  have hturn : Turnover s (s.run stretch) (s.issuedIds stretch) (s.droppedIds stretch) :=
    run_turnover he
  obtain ⟨numbers, hissued, hsorted, _⟩ := hturn.numbers
  refine ⟨⟨numbers, hissued, hsorted⟩, fun hfits => ?_⟩
  have hfresh := hturn.issued_fresh h hfits
  exact ⟨hfresh, hturn.remaining hfresh⟩

/-- The counter goes on from an id in another spelling, and neither a removal nor a clear gives
numbers back. -/
theorem run_ids_accounted_removed :
    let form : Form :=
      { fields :=
          [{ id := "element-007", kind := .text, label := "", name := "a" },
            { id := "first", kind := .text, label := "", name := "b" }] }
    let s := (ofForm form).run [.addField .text]
    let stretch : List Edit := [.removeField "element-8", .addField .text, .clear, .addField .text]
    form.fieldIds.Nodup ∧ (s.run stretch).ids.peek < UInt64.size ∧
    s.form.fieldIds = ["element-007", "first", "element-8"] ∧
    s.issuedIds stretch = ["element-9", "element-10"] ∧
    (s.run stretch).form.fieldIds.Perm
      ((s.form.fieldIds ++ s.issuedIds stretch).filter (· ∉ s.droppedIds stretch)) := by
  intro form s stretch
  have hform : form.fieldIds.Nodup := by decide
  have hfits : (s.run stretch).ids.peek < UInt64.size := by decide
  have h := run_ids_accounted (Or.inr ⟨form, hform, rfl⟩)
    (show (ofForm form).run [.addField .text] = s from rfl)
  exact ⟨hform, hfits, by decide, by decide,
    ((h.2.2 stretch (by decide)).2 hfits).2⟩

end EditorState

end FormCompiler
