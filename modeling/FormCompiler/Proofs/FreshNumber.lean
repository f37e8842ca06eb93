import FormCompiler.Editor.State
import FormCompiler.Proofs.Numeral
import Mathlib.Data.List.Nodup

/-! The number of a new field is free: each field of the form stands in the way of two numbers at
most, so trying twice as many numbers as there are fields is enough. -/

namespace FormCompiler.EditorState

theorem isTaken_iff {form : Form} {kind : FieldKind} {number : Nat} :
    isTaken form kind number = true ↔ elementId number ∈ form.fields.map Field.id ∨
      kind.identifier ++ toString number ∈ form.fields.map Field.name := by
  simp only [isTaken, Field.withDefaults, List.any_eq_true, Bool.or_eq_true, beq_iff_eq,
    List.mem_map]
  constructor
  · rintro ⟨g, hg, hid | hname⟩
    · exact Or.inl ⟨g, hg, hid⟩
    · exact Or.inr ⟨g, hg, hname⟩
  · rintro (⟨g, hg, hid⟩ | ⟨g, hg, hname⟩)
    · exact ⟨g, hg, Or.inl hid⟩
    · exact ⟨g, hg, Or.inr hname⟩

theorem length_le_of_keys {key : Nat → String} (hkey : ∀ {m n}, key m = key n → m = n)
    {numbers : List Nat} (hnd : numbers.Nodup) {keys : List String}
    (h : ∀ n ∈ numbers, key n ∈ keys) : numbers.length ≤ keys.length := by
  have hkeys : (numbers.map key).Nodup := hnd.map fun _ _ => hkey
  have hsubset : numbers.map key ⊆ keys := by
    intro k hk
    obtain ⟨n, hn, rfl⟩ := List.mem_map.mp hk
    exact h n hn
  have hle := hkeys.length_le_of_subset hsubset
  rwa [List.length_map] at hle

/-- Distinct numbers are taken by distinct ids or by distinct names. -/
theorem length_taken_le {form : Form} {kind : FieldKind} {numbers : List Nat}
    (hnd : numbers.Nodup) (h : ∀ n ∈ numbers, isTaken form kind n = true) :
    numbers.length ≤ 2 * form.fields.length := by
  let byId (n : Nat) : Bool := decide (elementId n ∈ form.fields.map Field.id)
  have hid : ∀ n ∈ numbers.filter byId, elementId n ∈ form.fields.map Field.id :=
    fun n hn => of_decide_eq_true (List.mem_filter.mp hn).2
  have hname : ∀ n ∈ numbers.filter (!byId ·),
      kind.identifier ++ toString n ∈ form.fields.map Field.name := by
    intro n hn
    obtain ⟨hmem, hnot⟩ := List.mem_filter.mp hn
    exact (isTaken_iff.mp (h n hmem)).resolve_left (by simpa [byId] using hnot)
  have hids := length_le_of_keys elementId_injective (hnd.filter _) hid
  have hnames := length_le_of_keys numbered_injective (hnd.filter _) hname
  have hlen := List.length_eq_length_filter_add (l := numbers) byId
  simp only [List.length_map] at hids hnames
  omega

/-- The search passes taken numbers only, and it ends early only at a free one. -/
theorem freeNumber_cases (form : Form) (kind : FieldKind) (tries number : Nat) :
    ∃ passed, freeNumber form kind tries number = number + passed ∧
      (∀ j < passed, isTaken form kind (number + j) = true) ∧
      (passed = tries ∨ isTaken form kind (number + passed) = false) := by
  induction tries generalizing number with
  | zero => exact ⟨0, rfl, by simp, Or.inl rfl⟩
  | succ tries ih =>
    by_cases ht : isTaken form kind number = true
    · obtain ⟨passed, hp, htaken, hend⟩ := ih (number + 1)
      have hshift (j : Nat) : number + 1 + j = number + (j + 1) := by omega
      refine ⟨passed + 1, ?_, ?_, ?_⟩
      · rw [freeNumber, if_pos ht, hp, hshift]
      · intro j hj
        cases j with
        | zero => exact ht
        | succ j => rw [← hshift]; exact htaken j (by omega)
      · rw [← hshift]
        exact hend.imp (congrArg (· + 1)) id
    · exact ⟨0, by rw [freeNumber, if_neg ht]; rfl, by simp, Or.inr (by simpa using ht)⟩

/-- A search that ran out would have passed more numbers than the fields can take. -/
theorem nextNumber_free (s : EditorState) (kind : FieldKind) :
    isTaken s.form kind (s.nextNumber kind) = false := by
  obtain ⟨passed, hp, htaken, hend⟩ :=
    freeNumber_cases s.form kind (2 * s.form.fields.length) s.ids.peek
  rw [nextNumber, hp]
  rcases hend with hend | hfree
  · by_contra ht
    have hall : ∀ n ∈ List.range' s.ids.peek (passed + 1), isTaken s.form kind n = true := by
      intro n hn
      obtain ⟨j, hj, rfl⟩ := List.mem_range'.mp hn
      rcases Nat.lt_or_eq_of_le (Nat.le_of_lt_succ hj) with hj | rfl
      · simpa using htaken j hj
      · simpa using ht
    have hlen := length_taken_le List.nodup_range' hall
    rw [List.length_range'] at hlen
    omega
  · exact hfree

/-- The numbers that are passed over are taken. -/
theorem nextNumber_least (s : EditorState) (kind : FieldKind) {n : Nat} (hle : s.ids.peek ≤ n)
    (hlt : n < s.nextNumber kind) : isTaken s.form kind n = true := by
  obtain ⟨passed, hp, htaken, _⟩ :=
    freeNumber_cases s.form kind (2 * s.form.fields.length) s.ids.peek
  rw [nextNumber, hp] at hlt
  have h := htaken (n - s.ids.peek) (by omega)
  rwa [Nat.add_sub_cancel' hle] at h

theorem nextNumber_spec (s : EditorState) (kind : FieldKind) :
    s.ids.peek ≤ s.nextNumber kind ∧
      elementId (s.nextNumber kind) ∉ s.form.fields.map Field.id ∧
      kind.identifier ++ toString (s.nextNumber kind) ∉ s.form.fields.map Field.name := by
  have hle : s.ids.peek ≤ s.nextNumber kind := by
    obtain ⟨passed, hp, _, _⟩ :=
      freeNumber_cases s.form kind (2 * s.form.fields.length) s.ids.peek
    rw [nextNumber, hp]
    exact Nat.le_add_right _ _
  have hfree : ¬ isTaken s.form kind (s.nextNumber kind) = true := by
    simp [nextNumber_free s kind]
  rw [isTaken_iff, not_or] at hfree
  exact ⟨hle, hfree⟩

end FormCompiler.EditorState
