import FormCompiler.Proofs.Verdicts
import FormCompiler.Proofs.WellFormed

/-! A form without issues can be filled in, unless a required password is to be shorter than
passwords are or a required number without a least value is to be negative. Names are distinct, so
an object with one member for each field gives each of them its own value. -/

namespace FormCompiler

namespace Field

/-- What is there for a field is admitted, or it may be absent. -/
def IsMetBy (f : Field) (values : Json) : Prop :=
  (presentValue values f.name = none → f.MayBeAbsent) ∧
    ∀ v, presentValue values f.name = some v → f.Admits v

theorem isMetBy_of_absent {f : Field} {values : Json} (h : presentValue values f.name = none) :
    f.IsMetBy values ↔ f.MayBeAbsent := by
  simp [IsMetBy, h]

theorem isMetBy_of_present {f : Field} {values v : Json}
    (h : presentValue values f.name = some v) : f.IsMetBy values ↔ f.Admits v := by
  simp [IsMetBy, h]

theorem isMetBy_iff {f : Field} (hf : f.FiniteNumbers) (values : Json) :
    f.IsMetBy values ↔ SchemaEntry.IsMetBy values ⟨f.name, f.rule⟩ := by
  simp only [IsMetBy, SchemaEntry.IsMetBy, ← presentValue_eq_none_iff, ← and_assoc,
    ← presentValue_eq_some_iff, rule_isOptional_iff, rule_accepts_iff hf]
  cases presentValue values f.name <;> simp

end Field

theorem Form.forall_isMetBy_entries {form : Form} (hform : ∀ f ∈ form.fields, f.FiniteNumbers)
    (values : Json) :
    (∀ f ∈ form.fields, f.IsMetBy values) ↔ ∀ e ∈ form.schema.entries, e.IsMetBy values := by
  rw [schema, List.forall_mem_map]
  exact forall₂_congr fun f hf => Field.isMetBy_iff (hform f hf) values

theorem Form.forall_isMetBy_iff {form : Form} (hform : ∀ f ∈ form.fields, f.FiniteNumbers)
    (values : Json) : (∀ f ∈ form.fields, f.IsMetBy values) ↔
      (form.schema.validate values).errors = [] ∧
        (form.schema.validate values).missingRequired = [] := by
  rw [forall_isMetBy_entries hform, Schema.clear_iff_isMetBy]

theorem Form.valid_iff {form : Form} (hform : ∀ f ∈ form.fields, f.FiniteNumbers) (values : Json) :
    (form.schema.validate values).valid = true ↔
      (∀ f ∈ form.fields, f.IsMetBy values) ∧
        ∀ key ∈ values.keys, key ∈ form.fields.map Field.name := by
  have hnames : form.schema.names = form.fields.map Field.name := by
    simp [schema, Schema.names]
  simp only [Schema.valid_iff_isMetBy, forall_isMetBy_entries hform, hnames, Json.mem_keys_iff]
  exact and_comm

namespace Field

/-- Ones, as many as given and as many as the field asks for. -/
def ones (f : Field) (least : Nat) : String :=
  String.ofList (List.replicate (Max.max least (f.minLength.getD 0).toNat) '1')

/-- A value that the field admits if it can be admitted at all. -/
def filling (f : Field) : Json :=
  match f.kind with
  | .text | .textarea | .date | .select | .radio => .string (f.ones 1)
  | .password => .string (f.ones 8)
  | .number => .number (.float (f.min.getD .zero))
  | .checkbox => .bool true
  | .checkboxGroup => .array [.string (f.ones 1)]
  | .file => .object [("name", .string (f.ones 1))]

/-- A field that asks for a value and lets none through: a password that is too short to be one, or
a number that must be both negative and not. -/
def NeverMet (f : Field) : Prop :=
  f.required = true ∧
    (f.kind = .password ∧ (∃ n, f.maxLength = some n ∧ 1 ≤ n ∧ n ≤ 7) ∨
      f.kind = .number ∧ f.min = none ∧ ∃ bound, f.max = some bound ∧ bound < .zero)

theorem length16_ones (f : Field) (least : Nat) :
    Text.length16 (f.ones least) = Max.max least (f.minLength.getD 0).toNat := by
  have hcount (n : Nat) : Text.unitCount (List.replicate n '1') = n := by
    induction n with
    | zero => rfl
    | succ n ih =>
      rw [List.replicate_succ, Text.unitCount, ih]
      exact Nat.add_comm 1 n
  rw [Text.length16, ones, String.toList_ofList, hcount]

theorem contentFits_ones (f : Field) {least : Nat} (hleast : 1 ≤ least) :
    f.ContentFits (f.ones least) := by
  have hne : f.ones least ≠ "" := by
    rw [← length16_pos_iff, length16_ones]
    omega
  have hone : ∀ c ∈ (f.ones least).toList, c = '1' := by
    intro c hc
    rw [ones, String.toList_ofList] at hc
    exact List.eq_of_mem_replicate hc
  refine ⟨fun _ => ⟨hne, fun c hc => ?_⟩, fun _ => ⟨hne, fun c hc => Or.inl ?_⟩⟩
  · rw [hone c hc]
    decide
  · rw [hone c hc]
    decide

theorem lengthFits_ones {f : Field} (h : f.WellFormed) (least : Nat)
    (hleast : ∀ n, f.maxLength = some n → 0 < n → least ≤ n.toNat) :
    f.LengthFits (f.ones least) := by
  rw [LengthFits, length16_ones]
  constructor
  · intro n hn _
    simp only [hn, Option.getD_some]
    omega
  · intro n hn hpos
    have hmin : (f.minLength.getD 0).toNat ≤ n.toNat := by
      cases hm : f.minLength with
      | none => simp
      | some m => simpa [UInt64.lt_iff_toNat_lt] using h.lengths m hm n hn
    have hle := hleast n hn hpos
    omega

theorem admits_filling_number {f : Field} (hk : f.kind = .number) (h : f.WellFormed)
    (hf : f.FiniteNumbers)
    (hbound : f.min = none → ∀ bound, f.max = some bound → ¬ bound < .zero) :
    f.Admits f.filling := by
  have hnum := Binary64.isNaN_of_isFinite hf.least
  simp only [Admits, filling, hk]
  refine ⟨f.min.getD .zero, coerceNumber_float hf.least, fun _ => ?_, ?_⟩
  · exact Binary64.le_refl hnum
  · intro bound hmax
    have hmaxnum := Binary64.isNaN_of_isFinite (hf.max bound hmax)
    rw [← Binary64.not_lt_iff_le hmaxnum hnum]
    cases hm : f.min with
    | none => exact hbound hm bound hmax
    | some least => exact h.bounds least hm bound hmax

theorem admits_filling {f : Field} (h : f.WellFormed) (hf : f.FiniteNumbers) (hnot : ¬ f.NeverMet)
    (hneeded : ¬ f.MayBeAbsent) : f.Admits f.filling := by
  have hlong : 1 ≤ Text.length16 (f.ones 1) := by
    rw [length16_ones]
    omega
  have hne := (length16_pos_iff _).mp hlong
  cases hk : f.kind with
  | text | textarea =>
    have hfits := lengthFits_ones h 1 fun _ _ => UInt64.lt_iff_toNat_lt.mp
    simpa [Admits, filling, hk] using ⟨f.contentFits_ones (Nat.le_refl 1), hfits, fun _ => hlong⟩
  | date | select | radio => simpa [Admits, filling, hk] using fun _ => hne
  | password =>
    have hreq : f.required = true := by simpa [MayBeAbsent, hk] using hneeded
    have hfits : f.LengthFits (f.ones 8) := by
      refine lengthFits_ones h 8 fun n hn hpos => ?_
      rcases Nat.lt_or_ge n.toNat 8 with hlt | hge
      · have hle : n ≤ 7 := UInt64.le_iff_toNat_le.mpr (Nat.le_of_lt_succ hlt)
        have hone : 1 ≤ n := UInt64.le_iff_toNat_le.mpr (UInt64.lt_iff_toNat_lt.mp hpos)
        exact (hnot ⟨hreq, Or.inl ⟨hk, n, hn, hone, hle⟩⟩).elim
      · exact hge
    have hsize : 8 ≤ Text.length16 (f.ones 8) := by
      rw [length16_ones]
      omega
    simpa [Admits, filling, hk] using ⟨hsize, hfits⟩
  | number =>
    have hreq : f.required = true := by simpa [MayBeAbsent, hk] using hneeded
    apply admits_filling_number hk h hf
    exact fun hm bound hmax hneg => hnot ⟨hreq, Or.inr ⟨hk, hm, bound, hmax, hneg⟩⟩
  | checkbox => simp [Admits, filling, hk]
  | checkboxGroup => simp [Admits, filling, hk]
  | file => simp [Admits, filling, hk, Json.member?]

theorem not_isMetBy_of_neverMet {f : Field} (h : f.NeverMet) (values : Json) :
    ¬ f.IsMetBy values := by
  obtain ⟨hreq, hgap⟩ := h
  rintro ⟨habsent, hpresent⟩
  cases hp : presentValue values f.name with
  | none => exact absurd (habsent hp).1 (by simp [hreq])
  | some v =>
    have hv := hpresent v hp
    rcases hgap with ⟨hk, n, hn, hone, hle⟩ | ⟨hk, hmin, bound, hmax, hneg⟩
    · simp only [Admits, hk] at hv
      obtain ⟨s, _, hlong, _, hshort⟩ := hv
      have hpos : 0 < n := UInt64.lt_iff_toNat_lt.mpr (UInt64.le_iff_toNat_le.mp hone)
      have hseven : n.toNat ≤ 7 := UInt64.le_iff_toNat_le.mp hle
      have hlen := hshort n hn hpos
      omega
    · simp only [Admits, hk] at hv
      obtain ⟨x, _, hleast, hmost⟩ := hv
      have hzero : Binary64.zero ≤ x := by simpa [hmin] using hleast hreq
      have hle := Binary64.le_iff.mp (hmost bound hmax)
      have hlt := Binary64.lt_iff.mp hneg
      have hge := Binary64.le_iff.mp hzero
      omega

end Field

/-- A value for each field; null stands for none. -/
def Form.filling (form : Form) : List (String × Json) :=
  form.fields.map fun f => (f.name, if f.rule.isOptional then .null else f.filling)

theorem Form.filling_keys (form : Form) :
    form.filling.map Prod.fst = form.fields.map Field.name := by
  simp [filling]

theorem Form.isMetBy_filling {form : Form} (h : form.WellFormed) {f : Field}
    (hf : f ∈ form.fields) (hfinite : f.FiniteNumbers) (hnot : ¬ f.NeverMet) :
    f.IsMetBy (.object form.filling) := by
  have hlookup : (Json.object form.filling).member? f.name =
      some (if f.rule.isOptional then .null else f.filling) := by
    apply Json.lookup_of_mem
    · rw [filling_keys]
      exact h.names
    · exact List.mem_map.mpr ⟨f, hf, rfl⟩
  by_cases hopt : f.rule.isOptional = true
  · rw [if_pos hopt] at hlookup
    have hp : presentValue (.object form.filling) f.name = none :=
      presentValue_eq_none_iff.mpr (Or.inr hlookup)
    exact (Field.isMetBy_of_absent hp).mpr (f.rule_isOptional_iff.mp hopt)
  · have hneeded : ¬ f.MayBeAbsent := by rwa [← Field.rule_isOptional_iff]
    have hnull : f.filling ≠ .null := by
      cases hk : f.kind <;> simp [Field.filling, hk]
    rw [if_neg hopt] at hlookup
    have hp : presentValue (.object form.filling) f.name = some f.filling :=
      presentValue_eq_some_iff.mpr ⟨hlookup, hnull⟩
    exact (Field.isMetBy_of_present hp).mpr
      (Field.admits_filling (h.sound f hf) hfinite hnot hneeded)

/-- A form without issues has values without errors exactly when none of its fields asks for what
it does not let through. -/
theorem Form.fillable_iff {form : Form} (hcheck : form.check = [])
    (hfinite : ∀ f ∈ form.fields, f.FiniteNumbers) :
    (∃ members : List (String × Json), (members.map Prod.fst).Nodup ∧
      (form.schema.validate (.object members)).valid = true) ↔
      ¬ ∃ f ∈ form.fields, f.NeverMet := by
  have hsound := form.check_eq_nil_iff.mp hcheck
  constructor
  · rintro ⟨members, _, hvalid⟩ ⟨f, hf, hnever⟩
    exact Field.not_isMetBy_of_neverMet hnever _ (((valid_iff hfinite _).mp hvalid).1 f hf)
  · intro hnone
    refine ⟨form.filling, ?_, (valid_iff hfinite _).mpr ⟨?_, ?_⟩⟩
    · rw [filling_keys]
      exact hsound.names
    · exact fun f hf => isMetBy_filling hsound hf (hfinite f hf) fun hnever => hnone ⟨f, hf, hnever⟩
    · intro key hkey
      rwa [Json.mem_keys_object, filling_keys] at hkey

/-- Eight characters are enough for a password, and minus zero for a number without a least
value. -/
theorem Form.fillable_iff_edge :
    let secret : Field :=
      { id := "element-1", kind := .password, label := "", name := "secret", required := true
        maxLength := some 8 }
    let share : Field :=
      { id := "element-2", kind := .number, label := "", name := "share", required := true
        max := some ⟨0x8000000000000000⟩ }
    let form : Form := { fields := [secret, share] }
    form.check = [] ∧ (∀ f ∈ form.fields, f.FiniteNumbers) ∧
    ∃ members : List (String × Json), (members.map Prod.fst).Nodup ∧
      (form.schema.validate (.object members)).valid = true := by
  intro secret share form
  have hcheck : form.check = [] := by decide
  have heach {P : Field → Prop} (hsecret : P secret) (hshare : P share) : ∀ f ∈ form.fields, P f :=
    List.forall_mem_cons.mpr ⟨hsecret, List.forall_mem_singleton.mpr hshare⟩
  have hfinite : ∀ f ∈ form.fields, f.FiniteNumbers :=
    heach ⟨by simp [secret], by simp [secret], by simp [secret]⟩
      ⟨by simp [share], by simp [share]; decide, by simp [share]⟩
  have hnot : ∀ f ∈ form.fields, ¬ f.NeverMet :=
    heach (by simp [Field.NeverMet, secret]) (by simp [Field.NeverMet, share]; decide)
  exact ⟨hcheck, hfinite, (fillable_iff hcheck hfinite).mpr fun ⟨f, hf, hnever⟩ => hnot f hf hnever⟩

end FormCompiler
