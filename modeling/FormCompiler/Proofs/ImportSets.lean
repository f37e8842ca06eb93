import FormCompiler.Component.Widget
import Mathlib.Data.List.Nodup

/-! Which groups of components a list of fields imports. A group is there when some field needs it,
and it is there once. -/

namespace FormCompiler

/-- The group in which a component is imported. -/
def Widget.group? (w : Widget) : Option Primitive :=
  [Primitive.input, .passwordInput, .textarea, .select, .checkbox, .radioGroup, .label,
    .formWrapper].find? fun p => p.widgets.contains w

theorem Widget.group?_eq_some_iff {w : Widget} {p : Primitive} :
    w.group? = some p ↔ w ∈ p.widgets := by
  constructor
  · intro h
    have hfound := List.find?_some h
    exact List.contains_iff_mem.mp hfound
  · revert w
    cases p <;> decide

theorem Primitive.widgets_nodup (p : Primitive) : p.widgets.Nodup := by cases p <;> decide

theorem Primitive.widgets_disjoint {p q : Primitive} (h : p ≠ q) :
    p.widgets.Disjoint q.widgets := by
  intro w hp hq
  rw [← Widget.group?_eq_some_iff] at hp hq
  exact h (Option.some.inj (hp.symm.trans hq))

namespace ImportSet

variable {s : ImportSet} {p q : Primitive} {kind : FieldKind} {kinds : List FieldKind}

theorem mem_insert_iff : q ∈ (s.insert p).2.primitives ↔ q ∈ s.primitives ∨ q = p := by
  by_cases hp : p ∈ s.primitives
  · have hsame : (s.insert p).2 = s := by simp [insert, contains, hp]
    rw [hsame]
    constructor
    · exact Or.inl
    · rintro (hq | rfl)
      · exact hq
      · exact hp
  · simp [insert, contains, hp]

theorem insert_nodup (h : s.primitives.Nodup) : (s.insert p).2.primitives.Nodup := by
  by_cases hp : p ∈ s.primitives
  · simpa [insert, contains, hp] using h
  · have hnew : (s.insert p).2.primitives = s.primitives ++ [p] := by simp [insert, contains, hp]
    rw [hnew, (List.perm_append_singleton p s.primitives).nodup_iff, List.nodup_cons]
    exact ⟨hp, h⟩

theorem mem_addField_iff :
    q ∈ (s.addField kind).primitives ↔
      q ∈ s.primitives ∨ q = kind.primitive ∨ q = .label ∨ q = .formWrapper := by
  simp only [addField, List.foldl_cons, List.foldl_nil, mem_insert_iff, or_assoc]

theorem addField_nodup (h : s.primitives.Nodup) : (s.addField kind).primitives.Nodup :=
  insert_nodup (insert_nodup (insert_nodup h))

theorem mem_ofKinds_iff :
    q ∈ (ofKinds kinds).primitives ↔
      ∃ kind ∈ kinds, q = kind.primitive ∨ q = .label ∨ q = .formWrapper := by
  have hfold (s : ImportSet) : q ∈ (kinds.foldl addField s).primitives ↔
      q ∈ s.primitives ∨ ∃ kind ∈ kinds, q = kind.primitive ∨ q = .label ∨ q = .formWrapper := by
    induction kinds generalizing s with
    | nil => simp
    | cons kind rest ih =>
      simp only [List.foldl_cons, ih, mem_addField_iff, or_assoc, List.mem_cons, exists_eq_or_imp]
  simpa [ofKinds] using hfold {}

theorem ofKinds_nodup (kinds : List FieldKind) : (ofKinds kinds).primitives.Nodup := by
  have hfold (s : ImportSet) (h : s.primitives.Nodup) :
      (kinds.foldl addField s).primitives.Nodup := by
    induction kinds generalizing s with
    | nil => exact h
    | cons kind rest ih => exact ih _ (addField_nodup h)
  exact hfold {} List.nodup_nil

/-- A group that belongs to one kind of control is imported when a field has such a control. -/
theorem mem_ofKinds_control_iff (hlabel : q ≠ .label) (hwrapper : q ≠ .formWrapper) :
    q ∈ (ofKinds kinds).primitives ↔ ∃ kind ∈ kinds, kind.primitive = q := by
  rw [mem_ofKinds_iff]
  exact exists_congr fun kind => and_congr_right fun _ => by simp [hlabel, hwrapper, eq_comm]

theorem mem_widgets_iff {w : Widget} :
    w ∈ s.primitives.flatMap Primitive.widgets ↔ ∃ p ∈ s.primitives, w.group? = some p := by
  simp only [List.mem_flatMap, Widget.group?_eq_some_iff]

theorem widgets_nodup (kinds : List FieldKind) :
    ((ofKinds kinds).primitives.flatMap Primitive.widgets).Nodup :=
  List.nodup_flatMap.mpr ⟨fun p _ => p.widgets_nodup,
    (ofKinds_nodup kinds).imp Primitive.widgets_disjoint⟩

end ImportSet

end FormCompiler
