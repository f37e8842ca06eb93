import FormCompiler.Proofs.MessageLiterals

/-! The rules that are derived from fields. A check passes every value that is not of its shape, and
a message is printed between quotes without escapes, so both would go wrong in silence. No field
leads there: its checks are made of values of the shape of its rule, and its messages are plain. -/

namespace FormCompiler

open Text

/-! ## Checks that fit the shape of a rule -/

def Typed.base : Typed → BaseType
  | text _ => .string
  | number _ => .number
  | flag _ => .boolean
  | list _ => .stringArray
  | binary => .binary

/-- What a check asks of a value. No value of a shape that is not its own can meet it. -/
def Check.Demands : Check → Typed → Prop
  | minLength n, .text s => n.toNat ≤ Text.length16 s
  | minLength n, .list length => n.toNat ≤ length
  | maxLength n, .text s => Text.length16 s ≤ n.toNat
  | maxLength n, .list length => length ≤ n.toNat
  | min bound, .number x => ¬ x < bound
  | max bound, .number x => ¬ bound < x
  | pattern p, .text s => p.accepts .unicode s = true
  | mustBeTrue, .flag b => b = true
  | optional, _ => True
  | _, _ => False

namespace BaseType

/-- Of the values of the shape just those pass that meet the check. -/
def Enforces (b : BaseType) (c : Check) : Prop :=
  ∀ v typed, b.coerce v = some typed → (c.Passes typed ↔ c.Demands typed)

/-- The checks that rules of the shape are made of, besides the one that accepts what is absent. -/
def Takes (b : BaseType) : Check → Prop
  | .minLength _ => b = string ∨ b = stringArray
  | .maxLength _ | .pattern _ => b = string
  | .min _ | .max _ => b = number
  | .mustBeTrue => b = boolean
  | .optional => False

theorem base_of_coerce {b : BaseType} {v : Json} {typed : Typed} (h : b.coerce v = some typed) :
    typed.base = b := by
  cases b with
  | string =>
    obtain ⟨s, -, rfl⟩ := coerce_string_iff.mp h
    rfl
  | number =>
    obtain ⟨x, -, rfl⟩ := coerce_number_iff.mp h
    rfl
  | boolean =>
    obtain ⟨flag, -, rfl⟩ := coerce_boolean_iff.mp h
    rfl
  | stringArray =>
    obtain ⟨items, -, rfl⟩ := coerce_stringArray_iff.mp h
    rfl
  | binary =>
    obtain ⟨name, -, rfl⟩ := coerce_binary_iff.mp h
    rfl

theorem exists_coerce (b : BaseType) : ∃ v typed, b.coerce v = some typed := by
  cases b with
  | string => exact ⟨.string "", _, rfl⟩
  | number => exact ⟨.bool true, _, rfl⟩
  | boolean => exact ⟨.bool true, _, rfl⟩
  | stringArray => exact ⟨.array [], _, rfl⟩
  | binary => exact ⟨.object [("name", .string "")], _, rfl⟩

/-- Whether a check is made of a value or passes it unseen depends on the shape alone. -/
theorem passes_iff_demands_iff (c : Check) (typed : Typed) :
    (c.Passes typed ↔ c.Demands typed) ↔ typed.base.Takes c ∨
      (typed.base = stringArray ∧ ∃ n, c = .maxLength n) ∨ c = .optional := by
  cases c <;> cases typed <;>
    simp [Typed.base, Takes, Check.Demands, Check.Passes, Check.refusal?]

/-- All other checks are made without effect. -/
theorem enforces_iff (b : BaseType) (c : Check) :
    b.Enforces c ↔ b.Takes c ∨ (b = stringArray ∧ ∃ n, c = .maxLength n) ∨ c = .optional := by
  constructor
  · intro h
    obtain ⟨v, typed, htyped⟩ := b.exists_coerce
    rw [← base_of_coerce htyped]
    exact (passes_iff_demands_iff c typed).mp (h v typed htyped)
  · intro h v typed htyped
    rw [← base_of_coerce htyped] at h
    exact (passes_iff_demands_iff c typed).mpr h

end BaseType

/-- Where no check is without effect, a rule accepts what meets all of them. -/
theorem Rule.accepts_iff_demands {r : Rule} (h : ∀ c ∈ r.constraints, r.base.Enforces c.check)
    (v : Json) : r.refusal? v = none ↔
      ∃ typed, r.base.coerce v = some typed ∧ ∀ c ∈ r.constraints, c.check.Demands typed := by
  rw [Rule.refusal?_eq_none_iff]
  constructor
  · rintro ⟨typed, htyped, hpass⟩
    exact ⟨typed, htyped, fun c hc => (h c hc v typed htyped).mp (hpass c hc)⟩
  · rintro ⟨typed, htyped, hmeet⟩
    exact ⟨typed, htyped, fun c hc => (h c hc v typed htyped).mpr (hmeet c hc)⟩

/-! ## What is derived from a field -/

/-- A check with an effect on values of the shape, and a message that can be printed. -/
structure Constraint.Firm (b : BaseType) (c : Constraint) : Prop where
  takes : b.Takes c.check
  plain : ∀ m ∈ c.message, IsPlain m

namespace Constraint

theorem firm_of_plain {b : BaseType} {check : Check} {message : String} (htakes : b.Takes check)
    (hplain : IsPlain message) : Firm b ⟨check, some message⟩ where
  takes := htakes
  plain := by
    rintro m ⟨⟩
    exact hplain

theorem plain_counted {before after : String} (n : UInt64) (hbefore : IsPlain before)
    (hafter : IsPlain after) : IsPlain (before ++ toString n ++ after) :=
  (hbefore.append (avoids_toString n (by decide))).append hafter

theorem firm_atLeast (n : UInt64) : (atLeast n).Firm .string :=
  firm_of_plain (Or.inl rfl) (plain_counted n (by decide) (by decide))

theorem firm_atMost (n : UInt64) : (atMost n).Firm .string :=
  firm_of_plain rfl (plain_counted n (by decide) (by decide))

theorem firm_matching (p : Pattern) : (matching p).Firm .string :=
  firm_of_plain rfl (by cases p <;> decide)

theorem firm_passwordSize : passwordSize.Firm .string :=
  firm_of_plain (Or.inl rfl) (by decide)

theorem firm_upTo (bound : Binary64) : (upTo bound).Firm .number := by
  have hbefore : IsPlain "Value must be less than or equal to " := by decide
  have hnumber : IsPlain bound.literal := bound.avoids_literal _ (by decide) (by decide)
  exact firm_of_plain rfl (hbefore.append hnumber)

theorem firm_presence {b : BaseType} {check : Check} (htakes : b.Takes check) :
    (presence true check).Firm b :=
  firm_of_plain htakes (by decide)

theorem firm_lengths (min max : Option UInt64) : ∀ c ∈ lengths min max, c.Firm .string := by
  simp only [lengths, List.forall_mem_append, List.forall_mem_map]
  exact ⟨fun n _ => firm_atLeast n, fun n _ => firm_atMost n⟩

end Constraint

theorem Constraint.Firm.check_ne {b : BaseType} {c : Constraint} (h : c.Firm b) :
    c.check ≠ .optional :=
  fun heq => (heq ▸ h.takes : b.Takes .optional)

def Rule.checks (r : Rule) : List Check := r.constraints.map Constraint.check

/-- The checks of the rule take effect and its messages can be printed. Only the rule of a field
that is not required accepts what is absent, and says so once. -/
structure Rule.Sound (required : Bool) (r : Rule) : Prop where
  takes : ∀ c ∈ r.constraints, c.check ≠ .optional → r.base.Takes c.check
  optional_once : r.checks.count .optional ≤ 1
  optional_only : .optional ∈ r.checks → required = false
  baseMessage : ∀ m ∈ r.baseMessage, r.base = .binary
  plain : ∀ m ∈ r.messages, IsPlain m

theorem Rule.Sound.enforces {required : Bool} {r : Rule} (h : r.Sound required) :
    ∀ c ∈ r.constraints, r.base.Enforces c.check := by
  intro c hc
  by_cases heq : c.check = .optional
  · exact (r.base.enforces_iff _).mpr (Or.inr (Or.inr heq))
  · exact (r.base.enforces_iff _).mpr (Or.inl (h.takes c hc heq))

namespace Rule

variable {b : BaseType} {constraints before after : List Constraint} {required : Bool}

theorem optional_not_mem_of_firm (h : ∀ c ∈ constraints, c.Firm b) :
    .optional ∉ constraints.map Constraint.check := by
  intro hmem
  obtain ⟨c, hc, heq⟩ := List.mem_map.mp hmem
  exact (h c hc).check_ne heq

theorem plain_of_firm (h : ∀ c ∈ constraints, c.Firm b) :
    ∀ m ∈ constraints.flatMap fun c => c.message.toList, IsPlain m := by
  intro m hm
  obtain ⟨c, hc, hmc⟩ := List.mem_flatMap.mp hm
  exact (h c hc).plain m (Option.mem_toList.mp hmc)

theorem sound_of_firm (h : ∀ c ∈ constraints, c.Firm b) :
    Sound required { base := b, constraints := constraints } where
  takes c hc _ := (h c hc).takes
  optional_once := by
    rw [checks, List.count_eq_zero.mpr (optional_not_mem_of_firm h)]
    exact Nat.zero_le 1
  optional_only hmem := absurd hmem (optional_not_mem_of_firm h)
  baseMessage := by simp
  plain := plain_of_firm h

theorem sound_of_optional (hbefore : ∀ c ∈ before, c.Firm b) (hafter : ∀ c ∈ after, c.Firm b) :
    Sound false { base := b, constraints := before ++ .optional :: after } where
  takes c hc hne := by
    rcases List.mem_append.mp hc with hc | hc
    · exact (hbefore c hc).takes
    · rcases List.mem_cons.mp hc with rfl | hc
      · exact absurd rfl hne
      · exact (hafter c hc).takes
  optional_once := by
    have hfirst := List.count_eq_zero.mpr (optional_not_mem_of_firm hbefore)
    have hlast := List.count_eq_zero.mpr (optional_not_mem_of_firm hafter)
    simp [checks, hfirst, hlast, Constraint.optional]
  optional_only _ := rfl
  baseMessage := by simp
  plain := by
    have hfirst := plain_of_firm hbefore
    have hlast := plain_of_firm hafter
    simp only [messages, Option.toList_none, List.nil_append, List.flatMap_append,
      List.flatMap_cons, Constraint.optional, List.forall_mem_append]
    exact ⟨hfirst, hlast⟩

theorem sound_of_presence {check : Check} (hbefore : ∀ c ∈ before, c.Firm b)
    (hafter : ∀ c ∈ after, c.Firm b) (hcheck : b.Takes check) :
    Sound required
      { base := b, constraints := before ++ .presence required check :: after } := by
  cases required with
  | false => exact sound_of_optional hbefore hafter
  | true =>
    apply sound_of_firm
    rw [List.forall_mem_append, List.forall_mem_cons]
    exact ⟨hbefore, Constraint.firm_presence hcheck, hafter⟩

theorem sound_of_required {check : Check} (hcheck : b.Takes check) :
    Sound required
      { base := b, constraints := if required then [.presence true check] else [] } := by
  apply sound_of_firm
  cases required with
  | false => simp
  | true => exact List.forall_mem_singleton.mpr (Constraint.firm_presence hcheck)

end Rule

namespace Field

open Constraint

theorem sound_rule (f : Field) : f.rule.Sound f.required := by
  have hnone {b : BaseType} : ∀ c ∈ ([] : List Constraint), c.Firm b := by simp
  have htext (h : f.kind.isTextLike = true) : f.rule.Sound f.required := by
    rw [rule_of_isTextLike h]
    refine Rule.sound_of_presence ?_ hnone (Or.inl rfl)
    rw [List.forall_mem_append, List.forall_mem_map]
    exact ⟨fun p _ => firm_matching p, firm_lengths _ _⟩
  cases hk : f.kind with
  | text | textarea => exact htext (by simp [hk, FieldKind.isTextLike])
  | password =>
    simp only [rule, hk]
    refine Rule.sound_of_presence ?_ hnone (Or.inl rfl)
    rw [List.forall_mem_cons]
    exact ⟨firm_passwordSize, firm_lengths _ _⟩
  | number =>
    simp only [rule, hk]
    exact Rule.sound_of_presence hnone (List.forall_mem_map.mpr fun x _ => firm_upTo x) rfl
  | date | select | radio =>
    simp only [rule, hk]
    exact Rule.sound_of_presence hnone hnone (Or.inl rfl)
  | checkbox =>
    simp only [rule, hk]
    exact Rule.sound_of_required rfl
  | checkboxGroup =>
    simp only [rule, hk]
    exact Rule.sound_of_required (Or.inr rfl)
  | file =>
    simp only [rule, hk]
    cases f.required with
    | false => exact Rule.sound_of_optional hnone hnone
    | true =>
      have hplain : IsPlain requiredMessage := by decide
      constructor <;> simp [Rule.checks, Rule.messages, hplain]

/-- Each check of a rule takes effect, only a field that is not required accepts what is absent, and
the printed rule has its messages for string literals. -/
theorem rule_enforced_and_printable (f : Field) :
    (∀ c ∈ f.rule.constraints, c.check ≠ .optional →
      f.rule.base.Takes c.check ∧ f.rule.base.Enforces c.check) ∧
    (∀ v, f.rule.refusal? v = none ↔
      ∃ typed, f.rule.base.coerce v = some typed ∧
        ∀ c ∈ f.rule.constraints, c.check.Demands typed) ∧
    f.rule.checks.count .optional ≤ 1 ∧ (.optional ∈ f.rule.checks → f.required = false) ∧
    (∀ m ∈ f.rule.messages, IsPlain m ∧ literals? (messageObject m) = some [m]) ∧
    literals? f.rule.expr.text = some f.rule.messages := by
  have hsound := f.sound_rule
  have henforces := hsound.enforces
  refine ⟨fun c hc hne => ⟨hsound.takes c hc hne, henforces c hc⟩,
    Rule.accepts_iff_demands henforces, hsound.optional_once, hsound.optional_only,
    fun m hm => ?_, (Rule.shows_text hsound.baseMessage hsound.plain).literals?⟩
  have hplain := hsound.plain m hm
  exact ⟨hplain, (shows_messageObject hplain).literals?⟩

end Field

end FormCompiler
