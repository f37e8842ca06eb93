import FormCompiler.Proofs.EditorRuns

/-! New fields. The name of one is the identifier of its kind and then its number, with nothing
between them. Identifiers have no digits, so the name ends in its number even where one identifier
begins with another, and it says which kind and which number it was made from. -/

namespace FormCompiler

theorem takeWhile_numbered {stem : String} (hstem : ∀ c ∈ stem.toList, c.isDigit = false) (n : Nat) :
    (stem ++ toString n).toList.takeWhile (!·.isDigit) = stem.toList := by
  have hall : ∀ c ∈ stem.toList, (!c.isDigit) = true := fun c hc => by simp [hstem c hc]
  have hnone : (Nat.toDigits 10 n).takeWhile (!·.isDigit) = [] := by
    rw [List.takeWhile_eq_nil_iff]
    intro hpos
    simpa using Text.isDigit_of_mem_toDigits (List.getElem_mem hpos)
  rw [String.toList_append, List.takeWhile_append_of_pos hall, Nat.toString_eq_repr,
    Nat.toList_repr, hnone, List.append_nil]

/-- A text without digits and a number after it are both known from the whole. -/
theorem numbered_eq_iff {stem other : String} {m n : Nat}
    (hstem : ∀ c ∈ stem.toList, c.isDigit = false)
    (hother : ∀ c ∈ other.toList, c.isDigit = false) :
    stem ++ toString m = other ++ toString n ↔ stem = other ∧ m = n := by
  constructor
  · intro h
    have hlist : stem.toList = other.toList := by
      rw [← takeWhile_numbered hstem m, h, takeWhile_numbered hother n]
    obtain rfl := String.toList_inj.mp hlist
    exact ⟨rfl, numbered_injective h⟩
  · rintro ⟨rfl, rfl⟩
    rfl

namespace FieldKind

theorem mem_all (kind : FieldKind) : kind ∈ all := by cases kind <;> decide

theorem identifier_injective : Function.Injective identifier := by
  have hidentifiers : (all.map identifier).Nodup := by decide
  exact fun k l h => List.inj_on_of_nodup_map hidentifiers k.mem_all l.mem_all h

theorem isDigit_of_mem_identifier (kind : FieldKind) :
    ∀ c ∈ kind.identifier.toList, c.isDigit = false := by
  have hnone : kind.identifier.toList.any Char.isDigit = false := by cases kind <;> decide
  simpa using hnone

end FieldKind

/-- Two new fields share a name only when they were made alike, and an id when they have the same
number. Nothing is wrong with a new field. -/
theorem Field.withDefaults_distinct (k l : FieldKind) (m n : Nat) :
    ((withDefaults k m).name = (withDefaults l n).name ↔ k = l ∧ m = n) ∧
    ((withDefaults k m).id = (withDefaults l n).id ↔ m = n) ∧
    (withDefaults k m).issues = [] := by
  refine ⟨?_, ?_, (issues_eq_nil_iff _).mpr (withDefaults_wellFormed k m)⟩
  · rw [← FieldKind.identifier_injective.eq_iff]
    exact numbered_eq_iff k.isDigit_of_mem_identifier l.isDigit_of_mem_identifier
  · constructor
    · exact elementId_injective
    · rintro rfl
      rfl

end FormCompiler
