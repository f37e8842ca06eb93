import FormCompiler.Proofs.Verdicts

/-! A field that asks for more lets no more values through. The rules of the two fields may differ
in their number of constraints, so what the fields say is compared, and not the rules. -/

namespace FormCompiler

namespace Field

/-- Of two fields of one kind and content the first is at least as strict. An unset least length or
least number counts as zero, an unset greatest one as none. -/
structure Tightens (g f : Field) : Prop where
  kind : g.kind = f.kind
  valueType : g.valueType = f.valueType
  required : f.required = true → g.required = true
  minLength : f.minLength.getD 0 ≤ g.minLength.getD 0
  maxLength : ∀ n, f.maxLength = some n → 0 < n → ∃ m, g.maxLength = some m ∧ 0 < m ∧ m ≤ n
  min : f.min.getD .zero ≤ g.min.getD .zero
  max : ∀ bound, f.max = some bound → ∃ tighter, g.max = some tighter ∧ tighter ≤ bound

namespace Tightens

variable {f g : Field}

theorem mayBeAbsent (h : g.Tightens f) (hg : g.MayBeAbsent) : f.MayBeAbsent := by
  obtain ⟨hneeded, hbox, hgroup⟩ := hg
  rw [h.kind] at hbox hgroup
  refine ⟨?_, hbox, hgroup⟩
  cases hreq : f.required with
  | false => rfl
  | true =>
    rw [h.required hreq] at hneeded
    exact hneeded

theorem contentFits (h : g.Tightens f) {s : String} (hg : g.ContentFits s) : f.ContentFits s := by
  rw [ContentFits, h.valueType] at hg
  exact hg

theorem lengthFits (h : g.Tightens f) {s : String} (hg : g.LengthFits s) : f.LengthFits s := by
  constructor
  · intro n hn hpos
    have hle := UInt64.le_iff_toNat_le.mp h.minLength
    have hlt := UInt64.lt_iff_toNat_lt.mp hpos
    rw [hn, Option.getD_some] at hle
    cases hm : g.minLength with
    | none =>
      rw [hm, Option.getD_none] at hle
      exact absurd hlt (Nat.not_lt.mpr hle)
    | some m =>
      rw [hm, Option.getD_some] at hle
      have hmpos : 0 < m := UInt64.lt_iff_toNat_lt.mpr (Nat.lt_of_lt_of_le hlt hle)
      exact Nat.le_trans hle (hg.1 m hm hmpos)
  · intro n hn hpos
    obtain ⟨m, hm, hmpos, hle⟩ := h.maxLength n hn hpos
    exact Nat.le_trans (hg.2 m hm hmpos) (UInt64.le_iff_toNat_le.mp hle)

theorem admits (h : g.Tightens f) {v : Json} (hg : g.Admits v) : f.Admits v := by
  unfold Admits at hg ⊢
  rw [h.kind] at hg
  generalize f.kind = kind at hg ⊢
  cases kind with
  | text | textarea =>
    obtain ⟨s, hs, hcontent, hlengths, hfilled⟩ := hg
    exact ⟨s, hs, h.contentFits hcontent, h.lengthFits hlengths, hfilled ∘ h.required⟩
  | password =>
    obtain ⟨s, hs, hlong, hlengths⟩ := hg
    exact ⟨s, hs, hlong, h.lengthFits hlengths⟩
  | date | select | radio =>
    obtain ⟨s, hs, hfilled⟩ := hg
    exact ⟨s, hs, hfilled ∘ h.required⟩
  | number =>
    obtain ⟨x, hx, hleast, hmost⟩ := hg
    refine ⟨x, hx, fun hreq => ?_, fun bound hbound => ?_⟩
    · exact Binary64.le_trans h.min (hleast (h.required hreq))
    · obtain ⟨tighter, htighter, hle⟩ := h.max bound hbound
      exact Binary64.le_trans (hmost tighter htighter) hle
  | checkbox =>
    obtain ⟨b, hb, hticked⟩ := hg
    exact ⟨b, hb, hticked ∘ h.required⟩
  | checkboxGroup =>
    obtain ⟨items, hitems, hstrings, hchosen⟩ := hg
    exact ⟨items, hitems, hstrings, hchosen ∘ h.required⟩
  | file => exact hg

end Tightens

variable {f g : Field}

/-- Whatever passes the stricter field passes the other one: a value on its own, and the values of a
form in which the field stands under some name, be it there, null or absent. -/
theorem tightened_accepts (hf : f.FiniteNumbers) (hg : g.FiniteNumbers) (h : g.Tightens f) :
    (∀ v, g.rule.refusal? v = none → f.rule.refusal? v = none) ∧
    ∀ (name : String) (values : Json),
      let verdict (r : Rule) := (Schema.mk [⟨name, r⟩]).validate values
      (verdict g.rule).errors = [] ∧ (verdict g.rule).missingRequired = [] →
        (verdict f.rule).errors = [] ∧ (verdict f.rule).missingRequired = [] := by
  have hvalue (v : Json) (hv : g.rule.refusal? v = none) : f.rule.refusal? v = none :=
    (rule_accepts_iff hf v).mpr (h.admits ((rule_accepts_iff hg v).mp hv))
  refine ⟨hvalue, fun name values => ?_⟩
  simp only [Schema.clear_iff_isMetBy, List.forall_mem_singleton]
  rintro (⟨habsent, hoptional⟩ | ⟨v, hpresent, hnull, hv⟩)
  · have hfree := h.mayBeAbsent (g.rule_isOptional_iff.mp hoptional)
    exact Or.inl ⟨habsent, f.rule_isOptional_iff.mpr hfree⟩
  · exact Or.inr ⟨v, hpresent, hnull, hvalue v hv⟩

/-- Minus zero is no less strict than an unset least number, and truth, which counts as one, passes
both fields. -/
theorem tightened_accepts_share :
    let f : Field :=
      { id := "element-1", kind := .number, label := "Share", name := "share", required := true
        max := some ⟨0x4000000000000000⟩ }
    let g : Field := { f with min := some ⟨0x8000000000000000⟩, max := some .one }
    f.FiniteNumbers ∧ g.FiniteNumbers ∧ g.Tightens f ∧ g.rule.refusal? (.bool true) = none ∧
      f.rule.refusal? (.bool true) = none := by
  intro f g
  have hf : f.FiniteNumbers := ⟨by simp [f], by simp [f]; decide, by simp [f]⟩
  have hg : g.FiniteNumbers := ⟨by simp [g]; decide, by simp [g]; decide, by simp [g, f]⟩
  have hmin : Binary64.zero ≤ ⟨0x8000000000000000⟩ :=
    Binary64.le_iff.mpr ⟨by decide, by decide, by decide⟩
  have hmax : Binary64.one ≤ ⟨0x4000000000000000⟩ :=
    Binary64.le_iff.mpr ⟨by decide, by decide, by decide⟩
  have h : g.Tightens f :=
    { kind := rfl
      valueType := rfl
      required := fun hreq => hreq
      minLength := UInt64.le_refl 0
      maxLength := by simp [f]
      min := hmin
      max := fun bound hbound => ⟨.one, rfl, Option.some.inj hbound ▸ hmax⟩ }
  have htrue : g.rule.refusal? (.bool true) = none := by decide
  exact ⟨hf, hg, h, htrue, (tightened_accepts hf hg h).1 _ htrue⟩

end Field

end FormCompiler
