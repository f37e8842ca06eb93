import FormCompiler.Proofs.Binary64Rounding
import FormCompiler.Proofs.FieldPreview
import Mathlib.Data.List.TakeWhile

/-! Texts that a number field takes for numbers. Decimals are described by their parts, in the order
in which they are written, without a reader. The reader takes exactly the decimals and, besides, the
words for infinity, and a field lets through what the reader takes. -/

namespace FormCompiler

namespace Text

/-! ## Decimals -/

def IsSign (cs : List Char) : Prop := cs = [] ∨ cs = ['+'] ∨ cs = ['-']

/-- Digits and nothing else, possibly none. -/
def Digits (cs : List Char) : Prop := ∀ c ∈ cs, c.isDigit = true

inductive IsMantissa : List Char → Prop
  | whole {digits : List Char} : digits ≠ [] → Digits digits → IsMantissa digits
  | pointed {digits places : List Char} :
    digits ≠ [] → Digits digits → Digits places → IsMantissa (digits ++ '.' :: places)
  | places {places : List Char} : places ≠ [] → Digits places → IsMantissa ('.' :: places)

inductive IsExponent : List Char → Prop
  | absent : IsExponent []
  | given {mark : Char} {sign digits : List Char} : mark = 'e' ∨ mark = 'E' → IsSign sign →
    digits ≠ [] → Digits digits → IsExponent (mark :: (sign ++ digits))

/-- A decimal without a sign. -/
def IsUnsigned (cs : List Char) : Prop :=
  ∃ mantissa exponent, IsMantissa mantissa ∧ IsExponent exponent ∧ cs = mantissa ++ exponent

def IsDecimal (cs : List Char) : Prop := ∃ sign body, IsSign sign ∧ IsUnsigned body ∧ cs = sign ++ body

/-- The short or the long word for infinity, in any case and with or without a sign. -/
def IsInfinity (cs : List Char) : Prop :=
  ∃ sign word, IsSign sign ∧ (spells "inf" word = true ∨ spells "infinity" word = true) ∧
    cs = sign ++ word

/-- No sign stands in front. -/
def Bare (cs : List Char) : Prop := ∀ c, cs.head? = some c → c ≠ '+' ∧ c ≠ '-'

variable {cs rest digits : List Char}

theorem exists_sign (cs : List Char) : ∃ sign, IsSign sign ∧ cs = sign ++ (splitSign cs).2 := by
  unfold splitSign
  split
  · exact ⟨['-'], by simp [IsSign], rfl⟩
  · exact ⟨['+'], by simp [IsSign], rfl⟩
  · exact ⟨[], by simp [IsSign], rfl⟩

theorem splitSign_of_bare {sign body : List Char} (hs : IsSign sign) (hb : Bare body) :
    (splitSign (sign ++ body)).2 = body := by
  rcases hs with rfl | rfl | rfl
  · cases body with
    | nil => rfl
    | cons c rest =>
      obtain ⟨hplus, hminus⟩ := hb c rfl
      rw [List.nil_append, splitSign]
      · exact fun _ h => hminus (List.cons.inj h).1
      · exact fun _ h => hplus (List.cons.inj h).1
  · rfl
  · rfl

theorem Digits.bare (h : Digits cs) : Bare cs := by
  intro c hc
  have hdigit := h c (List.mem_of_head? hc)
  constructor <;> rintro rfl <;> exact absurd hdigit (by decide)

theorem spanDigits_append (hd : Digits digits)
    (hr : ∀ c, rest.head? = some c → c.isDigit = false) :
    spanDigits (digits ++ rest) = (digits, rest) := by
  have hstop : rest.takeWhile Char.isDigit = [] ∧ rest.dropWhile Char.isDigit = rest := by
    cases rest with
    | nil => simp
    | cons c rest => simp [hr c rfl]
  rw [spanDigits, List.takeWhile_append_of_pos hd, List.dropWhile_append_of_pos hd, hstop.1, hstop.2,
    List.append_nil]

theorem digits_spanDigits (cs : List Char) : Digits (spanDigits cs).1 :=
  fun _ hc => List.mem_takeWhile_imp hc

theorem append_spanDigits (cs : List Char) : cs = (spanDigits cs).1 ++ (spanDigits cs).2 :=
  List.takeWhile_append_dropWhile.symm

theorem exponent?_isSome_iff (cs : List Char) : (exponent? cs).isSome = true ↔ IsExponent cs := by
  cases cs with
  | nil => simp [exponent?, IsExponent.absent]
  | cons mark cs =>
    have hread : (exponent? (mark :: cs)).isSome = true ↔
        (mark = 'e' ∨ mark = 'E') ∧ (splitSign cs).2 ≠ [] ∧ Digits (splitSign cs).2 := by
      simp [exponent?, Digits]
    rw [hread]
    constructor
    · rintro ⟨hmark, hne, hd⟩
      obtain ⟨sign, hs, hcs⟩ := exists_sign cs
      rw [hcs]
      exact .given hmark hs hne hd
    · generalize hall : mark :: cs = all
      rintro (_ | ⟨hmark, hs, hne, hd⟩)
      · simp at hall
      · obtain ⟨rfl, rfl⟩ := List.cons.inj hall
        rw [splitSign_of_bare hs hd.bare]
        exact ⟨hmark, hne, hd⟩

/-- An exponent goes on neither with digits nor with a point. -/
theorem IsExponent.head (h : IsExponent cs) :
    (∀ c, cs.head? = some c → c.isDigit = false) ∧ splitPlaces cs = ([], cs) := by
  rcases h with _ | ⟨rfl | rfl, _, _, _⟩
  · exact ⟨by simp, rfl⟩
  · exact ⟨by simp, rfl⟩
  · exact ⟨by simp, rfl⟩

theorem splitPlaces_cases (cs : List Char) :
    (∃ tail, cs = '.' :: tail ∧ splitPlaces cs = spanDigits tail) ∨ splitPlaces cs = ([], cs) := by
  unfold splitPlaces
  split
  · exact Or.inl ⟨_, rfl, rfl⟩
  · exact Or.inr rfl

theorem decimal?_isSome_iff_read (cs : List Char) : (decimal? cs).isSome = true ↔
    ¬ ((spanDigits cs).1 = [] ∧ (splitPlaces (spanDigits cs).2).1 = []) ∧
      IsExponent (splitPlaces (spanDigits cs).2).2 := by
  rw [← exponent?_isSome_iff, decimal?]
  by_cases hempty : (spanDigits cs).1 = [] ∧ (splitPlaces (spanDigits cs).2).1 = []
  · simp [hempty]
  · simp [hempty]

theorem IsUnsigned.of_read (hne : ¬ ((spanDigits cs).1 = [] ∧ (splitPlaces (spanDigits cs).2).1 = []))
    (he : IsExponent (splitPlaces (spanDigits cs).2).2) : IsUnsigned cs := by
  have hcs := append_spanDigits cs
  have hwhole := digits_spanDigits cs
  generalize (spanDigits cs).1 = whole at *
  generalize (spanDigits cs).2 = rest at *
  rcases splitPlaces_cases rest with ⟨tail, rfl, hsplit⟩ | hsplit
  · have htail := append_spanDigits tail
    have hplaces := digits_spanDigits tail
    rw [hsplit] at hne he
    by_cases hw : whole = []
    · refine ⟨_, _, .places (fun h => hne ⟨hw, h⟩) hplaces, he, ?_⟩
      rw [hcs, hw, List.nil_append, List.cons_append, ← htail]
    · refine ⟨_, _, .pointed hw hwhole hplaces, he, ?_⟩
      rw [hcs, List.append_assoc, List.cons_append, ← htail]
  · rw [hsplit] at hne he
    exact ⟨whole, rest, .whole (fun h => hne ⟨h, rfl⟩) hwhole, he, hcs⟩

theorem decimal?_isSome_iff (cs : List Char) : (decimal? cs).isSome = true ↔ IsUnsigned cs := by
  rw [decimal?_isSome_iff_read]
  constructor
  · rintro ⟨hne, he⟩
    exact .of_read hne he
  · rintro ⟨mantissa, exponent, hm, he, rfl⟩
    obtain ⟨hstop, hsplit⟩ := he.head
    have hpointed {whole places : List Char} (hw : Digits whole) (hp : Digits places) :
        spanDigits (whole ++ '.' :: places ++ exponent) = (whole, '.' :: (places ++ exponent)) ∧
          splitPlaces ('.' :: (places ++ exponent)) = (places, exponent) := by
      rw [List.append_assoc, List.cons_append]
      exact ⟨spanDigits_append hw (by simp), spanDigits_append hp hstop⟩
    cases hm with
    | whole hne hd =>
      rw [spanDigits_append hd hstop, hsplit]
      exact ⟨fun h => hne h.1, he⟩
    | pointed hne hw hp =>
      obtain ⟨hspan, hplaces⟩ := hpointed hw hp
      rw [hspan, hplaces]
      exact ⟨fun h => hne h.1, he⟩
    | places hne hp =>
      obtain ⟨hspan, hplaces⟩ := @hpointed [] _ (by simp [Digits]) hp
      rw [List.nil_append] at hspan
      rw [hspan, hplaces]
      exact ⟨fun h => hne h.2, he⟩

/-! ## Numbers -/

theorem bare_of_head {c : Char} (hc : c ≠ '+' ∧ c ≠ '-') : Bare (c :: rest) := by
  intro d hd
  rwa [← Option.some.inj hd]

theorem Digits.bare_append (hd : Digits digits) (hne : digits ≠ []) : Bare (digits ++ rest) := by
  cases digits with
  | nil => exact absurd rfl hne
  | cons c digits => exact bare_of_head (hd.bare c rfl)

theorem IsUnsigned.bare (h : IsUnsigned cs) : Bare cs := by
  obtain ⟨mantissa, exponent, hm, _, rfl⟩ := h
  cases hm with
  | whole hne hd => exact hd.bare_append hne
  | pointed hne hd _ =>
    rw [List.append_assoc]
    exact hd.bare_append hne
  | places _ _ => exact bare_of_head (by decide)

theorem bare_of_spells {word : List Char}
    (h : spells "inf" word = true ∨ spells "infinity" word = true) : Bare word := by
  intro c hc
  have hlower : (word.map lower).head? = some 'i' := by
    rcases h with h | h <;> rw [eq_of_beq h] <;> rfl
  rw [List.head?_map, hc] at hlower
  have hi : lower c = 'i' := Option.some.inj hlower
  constructor <;> rintro rfl <;> exact absurd hi (by decide)

theorem isDecimal_iff (cs : List Char) :
    IsDecimal cs ↔ (decimal? (splitSign cs).2).isSome = true := by
  rw [decimal?_isSome_iff]
  constructor
  · rintro ⟨sign, body, hs, hb, rfl⟩
    rwa [splitSign_of_bare hs hb.bare]
  · intro hb
    obtain ⟨sign, hs, hcs⟩ := exists_sign cs
    exact ⟨sign, _, hs, hb, hcs⟩

theorem isInfinity_iff (cs : List Char) : IsInfinity cs ↔
    (spells "inf" (splitSign cs).2 || spells "infinity" (splitSign cs).2) = true := by
  rw [Bool.or_eq_true]
  constructor
  · rintro ⟨sign, word, hs, hw, rfl⟩
    rwa [splitSign_of_bare hs (bare_of_spells hw)]
  · intro hw
    obtain ⟨sign, hs, hcs⟩ := exists_sign cs
    exact ⟨sign, _, hs, hw, hcs⟩

theorem number?_isSome_iff (cs : List Char) :
    (number? cs).isSome = true ↔ IsDecimal cs ∨ IsInfinity cs := by
  rw [isDecimal_iff, isInfinity_iff, number?]
  cases hw : spells "inf" (splitSign cs).2 || spells "infinity" (splitSign cs).2 <;> simp [hw]

theorem isNaN_number? {x : Binary64} (h : number? cs = some x) : x.isNaN = false := by
  rcases hsign : splitSign cs with ⟨negative, body⟩
  simp only [number?, hsign] at h
  split at h
  · obtain rfl := Option.some.inj h
    exact Binary64.isNaN_ofCode (Nat.le_refl _)
  · obtain ⟨d, _, rfl⟩ := Option.map_eq_some_iff.mp h
    exact Binary64.isNaN_ofDecimal ..

end Text

/-- Around white space, a string holds nothing or writes a number. -/
def CountsAsNumber (s : String) : Prop :=
  Text.trimBlank s.toList = [] ∨ Text.IsDecimal (Text.trimBlank s.toList) ∨
    Text.IsInfinity (Text.trimBlank s.toList)

theorem coerceNumber_string_iff (s : String) :
    (∃ x, coerceNumber (.string s) = some x) ↔ CountsAsNumber s := by
  rw [CountsAsNumber, ← Text.number?_isSome_iff, Option.isSome_iff_exists]
  by_cases hblank : Text.trimBlank s.toList = []
  · have hzero : coerceNumber (.string s) = some .zero := by
      simp only [coerceNumber, if_pos hblank]
      rfl
    simp [hblank, hzero]
  · have hread (x : Binary64) :
        coerceNumber (.string s) = some x ↔ Text.number? (Text.trimBlank s.toList) = some x := by
      simp only [coerceNumber, if_neg hblank, Option.filter_eq_some_iff]
      exact ⟨fun h => h.1, fun h => ⟨h, by rw [Text.isNaN_number? h]; rfl⟩⟩
    simp [hblank, hread]

namespace Field

variable {f : Field}

theorem rule_of_unbounded_number (hk : f.kind = .number) (hreq : f.required = false)
    (hmax : f.max = none) : f.rule = { base := .number, constraints := [.optional] } := by
  simp [rule, hk, hreq, hmax, Constraint.presence]

/-- A number field that asks for no more than a number takes the strings that count as one, and
finds every other of the wrong type. -/
theorem numeric_text_accepted (hk : f.kind = .number) (hreq : f.required = false)
    (hmax : f.max = none) (s : String) :
    (f.rule.refusal? (.string s) = none ↔ CountsAsNumber s) ∧
    (f.rule.refusal? (.string s) = some (.typeMismatch, "Expected number") ↔ ¬ CountsAsNumber s) ∧
    ∀ values : Json, values.member? f.name = some (.string s) →
      ((f.schema.validate values).errors = [] ↔ CountsAsNumber s) := by
  have hrule := rule_of_unbounded_number hk hreq hmax
  have haccepted : f.rule.refusal? (.string s) = none ↔ CountsAsNumber s := by
    rw [hrule, ← coerceNumber_string_iff,
      Rule.accepts_iff_of_coerce fun _ => BaseType.coerce_number_iff]
    simp [Constraint.optional]
  refine ⟨haccepted, ⟨fun h hcounts => ?_, fun hnot => ?_⟩, fun values hv => ?_⟩
  · rw [haccepted.mpr hcounts] at h
    exact absurd h (by simp)
  · have hnone : coerceNumber (.string s) = none := Option.eq_none_iff_forall_ne_some.mpr
      fun x hx => hnot ((coerceNumber_string_iff s).mp ⟨x, hx⟩)
    rw [hrule, Rule.refusal?, BaseType.coerce, hnone]
    rfl
  · rw [← haccepted, (f.validate_of_present hv (by simp)).2]
    cases f.rule.refusal? (.string s) <;> simp

theorem numeric_text_accepted_amount :
    let f : Field := { id := "element-1", kind := .number, label := "Amount", name := "amount" }
    CountsAsNumber " -12.5e3 " ∧
      (f.schema.validate (.object [("amount", .string " -12.5e3 ")])).errors = [] ∧
      f.rule.refusal? (.string "1,5") = some (.typeMismatch, "Expected number") := by
  intro f
  have hcounts : CountsAsNumber " -12.5e3 " :=
    Or.inr (Or.inl ((Text.isDecimal_iff _).mpr (by decide)))
  have hnot : ¬ CountsAsNumber "1,5" := by
    rw [CountsAsNumber, Text.isDecimal_iff, Text.isInfinity_iff]
    decide
  have htaken := (numeric_text_accepted (f := f) rfl rfl rfl " -12.5e3 ").2.2
  have hrefused := (numeric_text_accepted (f := f) rfl rfl rfl "1,5").2.1
  exact ⟨hcounts, (htaken _ rfl).mpr hcounts, hrefused.mpr hnot⟩

/-- A word that no decimal is, and no blank text, is let through. -/
theorem infinity_word_accepted :
    let f : Field := { id := "element-1", kind := .number, label := "Amount", name := "amount" }
    Text.trimBlank "inf".toList ≠ [] ∧ ¬ Text.IsDecimal (Text.trimBlank "inf".toList) ∧
      f.rule.refusal? (.string "inf") = none := by
  refine ⟨by decide, ?_, by decide⟩
  rw [Text.isDecimal_iff]
  decide

end Field

end FormCompiler
