import FormCompiler.Component.Control
import FormCompiler.Proofs.Numeral

/-! Printed code is read back by cutting it at its delimiters, which must not stand in what comes
before them. Numbers are free of delimiters, and an attribute is cut at its sign of equality. -/

namespace FormCompiler

namespace Text

variable {d : Char}

/-- Two texts with the same first delimiter agree before it and after it. -/
theorem cut {xs ys us vs : List Char} (hx : d ∉ xs) (hy : d ∉ ys)
    (h : xs ++ d :: us = ys ++ d :: vs) : xs = ys ∧ us = vs := by
  induction xs generalizing ys with
  | nil =>
    cases ys with
    | nil => exact ⟨rfl, (List.cons.inj h).2⟩
    | cons y ys =>
      have hd : d = y := (List.cons.inj h).1
      exact absurd (by simp [hd]) hy
  | cons x xs ih =>
    cases ys with
    | nil =>
      have hd : x = d := (List.cons.inj h).1
      exact absurd (by simp [hd]) hx
    | cons y ys =>
      obtain ⟨hxy, hrest⟩ := List.cons.inj h
      obtain ⟨hs, hu⟩ := ih (fun hm => hx (by simp [hm])) (fun hm => hy (by simp [hm])) hrest
      exact ⟨by rw [hxy, hs], hu⟩

theorem not_mem_toString (n : UInt64) (hd : d.isDigit = false) : d ∉ (toString n).toList := by
  intro hmem
  have hlist : (toString n).toList = Nat.toDigits 10 n.toNat := Nat.toList_repr
  have hdigit : d.isDigit = true := isDigit_of_mem_toDigits (hlist ▸ hmem)
  rw [hd] at hdigit
  exact Bool.false_ne_true hdigit

theorem toString_inj {m n : UInt64} : toString m = toString n ↔ m = n := by
  constructor
  · intro h
    have hnat : toString m.toNat = toString n.toNat := h
    have hstem : "" ++ toString m.toNat = "" ++ toString n.toNat := by rw [hnat]
    exact UInt64.toNat_inj.mp (numbered_injective hstem)
  · rintro rfl
    rfl

/-- Words of which none is the beginning of another text than its own can be joined without
anything between them. -/
theorem join_inj {α : Type} {text : α → String} {P : α → Prop} (hempty : ∀ a, text a ≠ "")
    (hcode : ∀ {a b s t}, P a → P b → text a ++ s = text b ++ t → a = b ∧ s = t) {as bs : List α}
    (ha : ∀ a ∈ as, P a) (hb : ∀ b ∈ bs, P b)
    (h : String.join (as.map text) = String.join (bs.map text)) : as = bs := by
  induction as generalizing bs with
  | nil =>
    cases bs with
    | nil => rfl
    | cons b bs => simp [hempty b] at h
  | cons a as ih =>
    cases bs with
    | nil => simp [hempty a] at h
    | cons b bs =>
      rw [List.forall_mem_cons] at ha hb
      obtain ⟨hab, hrest⟩ := hcode ha.1 hb.1 (by simpa using h)
      rw [hab, ih ha.2 hb.2 hrest]

end Text

end FormCompiler
