import FormCompiler.Proofs.EditorIds
import Mathlib.Order.Bounds.Defs

/-! New fields. Numbers are drawn one after the other until one is free, and nothing bounds the draws:
they end because distinct numbers make distinct names. No field of a state that can be reached stands
in the way by its id, so the fields bound the draws by their names alone. -/

namespace FormCompiler.EditorState

/-- The draws that begin with a number end with another one. -/
inductive Draws (form : Form) (kind : FieldKind) : Nat → Nat → Prop
  | free {number : Nat} (h : isTaken form kind number = false) : Draws form kind number number
  | taken {number last : Nat} (h : isTaken form kind number = true)
      (rest : Draws form kind (number + 1) last) : Draws form kind number last

theorem draws_iff {form : Form} {kind : FieldKind} {first last : Nat} :
    Draws form kind first last ↔ first ≤ last ∧ isTaken form kind last = false ∧
      ∀ n, first ≤ n → n < last → isTaken form kind n = true := by
  constructor
  · intro h
    induction h with
    | free h => exact ⟨Nat.le_refl _, h, fun n hle hlt => by omega⟩
    | @taken number last h _ ih =>
      obtain ⟨hle, hfree, htaken⟩ := ih
      refine ⟨by omega, hfree, fun n hn hlt => ?_⟩
      rcases Nat.eq_or_lt_of_le hn with rfl | hn
      · exact h
      · exact htaken n hn hlt
  · rintro ⟨hle, hfree, htaken⟩
    obtain ⟨passed, rfl⟩ := Nat.exists_eq_add_of_le hle
    clear hle
    induction passed generalizing first with
    | zero => exact .free hfree
    | succ passed ih =>
      have hshift : first + 1 + passed = first + (passed + 1) := by omega
      have hrest : Draws form kind (first + 1) (first + 1 + passed) := by
        apply ih
        · rwa [hshift]
        · intro n hle hlt
          exact htaken n (by omega) (by omega)
      rw [← hshift]
      exact .taken (htaken first (Nat.le_refl _) (by omega)) hrest

variable {s : EditorState}

theorem draws_iff_eq_nextNumber {kind : FieldKind} {n : Nat} :
    Draws s.form kind s.ids.peek n ↔ n = s.nextNumber kind := by
  have hle := (s.nextNumber_spec kind).1
  have hfree := s.nextNumber_free kind
  rw [draws_iff]
  constructor
  · rintro ⟨hn, hnfree, htaken⟩
    by_contra hne
    rcases Nat.lt_or_gt_of_ne hne with hlt | hgt
    · simp [s.nextNumber_least kind hn hlt] at hnfree
    · simp [htaken _ hle hgt] at hfree
  · rintro rfl
    exact ⟨hle, hfree, fun n hn hlt => s.nextNumber_least kind hn hlt⟩

/-- Where the counter is above all ids, a field stands in the way of one number at most. -/
theorem nextNumber_le (h : s.IdsBelow) {kind : FieldKind} (hfits : s.nextNumber kind < UInt64.size) :
    s.nextNumber kind ≤ s.ids.peek + s.form.fields.length := by
  let passed := List.range' s.ids.peek (s.nextNumber kind - s.ids.peek)
  have hnames : ∀ n ∈ passed,
      kind.identifier ++ toString n ∈ s.form.fields.map Field.name := by
    intro n hn
    obtain ⟨hle, hlt⟩ : s.ids.peek ≤ n ∧ n < s.nextNumber kind := by
      have hrange := List.mem_range'_1.mp hn
      omega
    refine (isTaken_iff.mp (s.nextNumber_least kind hle hlt)).resolve_left fun hid => ?_
    have hbelow := h n (Nat.lt_trans hlt hfits) hid
    omega
  have hlength := length_le_of_keys numbered_injective List.nodup_range' hnames
  simp only [List.length_map, List.length_range'] at hlength
  omega

theorem run_idsBelow {start : EditorState} (hstart : start = {} ∨ ∃ form, start = ofForm form)
    (edits : List Edit) : (start.run edits).IdsBelow := by
  have h : start.IdsBelow := by
    rcases hstart with rfl | ⟨form, rfl⟩
    · exact new_idsBelow
    · exact ofForm_idsBelow form
  exact run_induction h fun _ e _ hu => step_idsBelow hu e

/-- In every state that can be reached the draws end, and they end with the least number from the
counter on that neither an id nor a name has. As long as the counter fits, that is no further away
than there are fields. The field of the number comes after all others, and the counter goes on. -/
theorem run_addField {start : EditorState} (hstart : start = {} ∨ ∃ form, start = ofForm form)
    (edits : List Edit) (kind : FieldKind) :
    let s := start.run edits
    ∃ number,
      (∀ n, Draws s.form kind s.ids.peek n ↔ n = number) ∧
      IsLeast {n | s.ids.peek ≤ n ∧ ∀ f ∈ s.form.fields,
        f.id ≠ elementId n ∧ f.name ≠ kind.identifier ++ toString n} number ∧
      (number < UInt64.size → number ≤ s.ids.peek + s.form.fields.length) ∧
      s.addField kind = (elementId number,
        { form := { s.form with fields := s.form.fields ++ [Field.withDefaults kind number] }
          ids := ⟨number + 1⟩ }) := by
  intro s
  have hfree (n : Nat) : (∀ f ∈ s.form.fields, f.id ≠ elementId n ∧
      f.name ≠ kind.identifier ++ toString n) ↔ isTaken s.form kind n = false := by
    simp [isTaken, Field.withDefaults]
  refine ⟨s.nextNumber kind, fun n => draws_iff_eq_nextNumber, ⟨?_, ?_⟩,
    nextNumber_le (run_idsBelow hstart edits), rfl⟩
  · exact ⟨(s.nextNumber_spec kind).1, (hfree _).mpr (s.nextNumber_free kind)⟩
  · rintro n ⟨hle, hn⟩
    by_contra hlt
    have htaken := s.nextNumber_least kind hle (Nat.lt_of_not_ge hlt)
    rw [(hfree n).mp hn] at htaken
    simp at htaken

/-- The field behind the highest id has the name of the next number, and another that of the one after
it, which makes two draws in vain. -/
theorem run_addField_names_taken :
    let form : Form :=
      { fields :=
          [{ id := "element-3", kind := .date, label := "", name := "text4" },
            { id := "note", kind := .text, label := "", name := "text5" }] }
    let s := (ofForm form).run [.setLayout .twoColumns]
    s.ids.peek = 4 ∧ Draws s.form .text 4 6 ∧ (s.addField .text).1 = "element-6" ∧
      (s.addField .text).2.form.fields = form.fields ++ [Field.withDefaults .text 6] := by
  intro form s
  obtain ⟨number, hdraws, _, _, hadd⟩ :=
    run_addField (Or.inr ⟨form, rfl⟩) [.setLayout .twoColumns] .text
  have hdraw : Draws s.form .text 4 6 :=
    .taken (by decide) (.taken (by decide) (.free (by decide)))
  obtain rfl : 6 = number := (hdraws 6).mp hdraw
  refine ⟨by decide, hdraw, ?_, ?_⟩
  · exact congrArg Prod.fst hadd
  · exact congrArg (fun added => added.2.form.fields) hadd

end FormCompiler.EditorState
