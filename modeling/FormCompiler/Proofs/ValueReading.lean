import FormCompiler.Proofs.RecordReading
import Mathlib.Data.List.Forall2
import Mathlib.Data.Option.Basic

/-! Reading back what was written. A value that has been written may come with the members of its
objects in another order, so a reader restores a value when it does from all values alike. Readers
of parts that restore them make readers of lists and records that do. -/

namespace FormCompiler

namespace Json

/-- Values that are the same but for the order in which objects have their members. -/
inductive Alike : Json → Json → Prop
  | refl (v : Json) : Alike v v
  | array {vs ws : List Json} (h : List.Forall₂ Alike vs ws) : Alike (.array vs) (.array ws)
  | object {ms ns : List (String × Json)}
      (h : ∀ key, Option.Rel Alike (ms.lookup key) (ns.lookup key)) :
      Alike (.object ms) (.object ns)

namespace Alike

variable {v w : Json}

theorem eq_string {s : String} (h : Alike (.string s) w) : w = .string s := by
  cases h
  rfl

theorem eq_bool {b : Bool} (h : Alike (.bool b) w) : w = .bool b := by
  cases h
  rfl

theorem eq_number {n : Number} (h : Alike (.number n) w) : w = .number n := by
  cases h
  rfl

theorem ne_null (h : Alike v w) (hv : v ≠ .null) : w ≠ .null := by
  cases h with
  | refl => exact hv
  | array _ => simp
  | object _ => simp

theorem exists_array {vs : List Json} (h : Alike (.array vs) w) :
    ∃ ws, w = .array ws ∧ List.Forall₂ Alike vs ws := by
  cases h with
  | refl => exact ⟨vs, rfl, List.forall₂_same.mpr fun v _ => .refl v⟩
  | array h => exact ⟨_, rfl, h⟩

theorem exists_object {ms : List (String × Json)} (h : Alike (.object ms) w) :
    ∃ ns, w = .object ns ∧ ∀ key, Option.Rel Alike (ms.lookup key) (ns.lookup key) := by
  cases h with
  | refl =>
    refine ⟨ms, rfl, fun key => ?_⟩
    cases ms.lookup key with
    | none => exact .none
    | some v => exact .some (.refl v)
  | object h => exact ⟨_, rfl, h⟩

theorem lookup_of_perm {ms ns : List (String × Json)} (hkeys : (ms.map Prod.fst).Nodup)
    (h : ms.Perm ns) (key : String) : ms.lookup key = ns.lookup key := by
  induction h with
  | nil => rfl
  | cons m _ ih =>
    have hrest := ih (List.nodup_cons.mp hkeys).2
    rw [List.lookup_cons, List.lookup_cons, hrest]
  | swap m n rest =>
    obtain ⟨first, v⟩ := m
    obtain ⟨second, w⟩ := n
    have hne : second ≠ first := fun he => (List.nodup_cons.mp hkeys).1 (by simp [he])
    by_cases hfirst : key = first
    · have hsecond : (first == second) = false := beq_eq_false_iff_ne.mpr hne.symm
      simp [List.lookup_cons, hfirst, hsecond]
    · have hother : (key == first) = false := beq_eq_false_iff_ne.mpr hfirst
      simp only [List.lookup_cons, hother]
  | trans hfirst _ ih ih' =>
    rw [ih hkeys, ih' ((hfirst.map Prod.fst).nodup_iff.mp hkeys)]

/-- Members with distinct keys may be put in any order, and each value replaced by one like it. -/
theorem of_perm {ms ms' ns : List (String × Json)} (hkeys : (ms.map Prod.fst).Nodup)
    (hperm : ms.Perm ms') (h : List.Forall₂ (fun m n => m.1 = n.1 ∧ Alike m.2 n.2) ms' ns) :
    Alike (.object ms) (.object ns) := by
  refine .object fun key => ?_
  rw [lookup_of_perm hkeys hperm key]
  clear hperm
  induction h with
  | nil => exact .none
  | @cons m n _ _ hmember _ ih =>
    obtain ⟨first, v⟩ := m
    obtain ⟨second, w⟩ := n
    obtain ⟨rfl, hvalue⟩ := hmember
    by_cases hkey : key = first
    · simpa [List.lookup_cons, hkey] using hvalue
    · have hother : (key == first) = false := beq_eq_false_iff_ne.mpr hkey
      simpa only [List.lookup_cons, hother] using ih

end Alike

/-- What is read from all that is like a written value. -/
def Restores {α : Type} (read : Json → Except Fault α) (written : Json) (a : α) : Prop :=
  ∀ v, written.Alike v → read v = .ok a

section

variable {α : Type} {read : Json → Except Fault α} {written : Json} {a : α}

theorem restores_string (s : String) : Restores readString (.string s) s := by
  intro v hv
  rw [hv.eq_string]
  rfl

theorem restores_bool (b : Bool) : Restores readBool (.bool b) b := by
  intro v hv
  rw [hv.eq_bool]
  rfl

theorem readNatBelow_ofNat {limit n : Nat} (h : n < limit) :
    readNatBelow limit (.ofNat n : Json) = .ok n := by
  have hrange : (0 : Int) ≤ n ∧ (n : Int) < limit := by omega
  have hread : readNatBelow limit (.ofNat n : Json) =
      if (0 : Int) ≤ n ∧ (n : Int) < limit then .ok (n : Int).toNat else .error .outOfRange := rfl
  rw [hread, if_pos hrange, Int.toNat_natCast]

/-- A number below the limit of a word is restored as that word. -/
theorem restores_natBelow (word : Nat → α) {limit n : Nat} (h : n < limit) :
    Restores (fun v => word <$> readNatBelow limit v) (.ofNat n) (word n) := by
  intro v hv
  rw [hv.eq_number]
  change word <$> readNatBelow limit (.ofNat n : Json) = .ok (word n)
  rw [readNatBelow_ofNat h, Except.map_ok]

theorem restores_uint64 (n : UInt64) : Restores readUInt64 (.ofNat n.toNat) n := by
  have h := restores_natBelow UInt64.ofNat n.toNat_lt_size
  rw [UInt64.ofNat_toNat] at h
  exact h

theorem restores_uint32 (n : UInt32) : Restores readUInt32 (.ofNat n.toNat) n := by
  have h := restores_natBelow UInt32.ofNat n.toNat_lt_size
  rw [UInt32.ofNat_toNat] at h
  exact h

theorem restores_binary64 {x : Binary64} (h : x.isFinite = true) :
    Restores readBinary64 (.ofBinary64 x) x := by
  have hwritten : Json.ofBinary64 x = .number (.float x) := if_pos h
  intro v hv
  rw [hwritten] at hv
  rw [hv.eq_number]
  rfl

theorem restores_choice {ofName? : String → Option α} {name : String} (h : ofName? name = some a) :
    Restores (readChoice ofName?) (.string name) a := by
  intro v hv
  have hchoice : Source.choice (.string name : Json) = .ok (name, none) := rfl
  rw [hv.eq_string, readChoice, hchoice]
  simp only [bind, Except.bind, h]
  rfl

theorem restores_optional (h : Restores read written a) (hnull : written ≠ .null) :
    Restores (readOptional read) written (some a) := by
  intro v hv
  have hnot : Source.isNull v = .ok false := by
    change Except.ok (decide (v = .null)) = Except.ok false
    rw [decide_eq_false (hv.ne_null hnull)]
  rw [readOptional, hnot]
  change some <$> read v = .ok (some a)
  rw [h v hv]
  rfl

theorem mapM_eq_ok_iff {σ : Type} {read : σ → Except Fault α} {vs : List σ} {as : List α} :
    vs.mapM read = .ok as ↔ List.Forall₂ (fun v a => read v = .ok a) vs as := by
  induction vs generalizing as with
  | nil => cases as <;> simp [pure, Except.pure]
  | cons v rest ih =>
    rw [List.mapM_cons]
    cases hv : read v with
    | error fault => cases as <;> simp [bind, Except.bind, hv]
    | ok first =>
      cases hrest : rest.mapM read with
      | error fault => cases as <;> simp [bind, Except.bind, ← ih, hv, hrest]
      | ok others => cases as <;> simp [bind, Except.bind, pure, Except.pure, ← ih, hv, hrest]

theorem readList_eq_ok_iff {v : Json} {as : List α} :
    readList read v = .ok as ↔ ∃ items, v = .array items ∧ items.mapM read = .ok as := by
  cases v with
  | array items =>
    have hread : readList read (.array items) = items.mapM read >>= fun as => .ok as := rfl
    have hbind : (items.mapM read >>= fun as => .ok as) = items.mapM read := bind_pure _
    rw [hread, hbind]
    constructor
    · intro h
      exact ⟨items, rfl, h⟩
    · rintro ⟨_, ⟨⟩, h⟩
      exact h
  | _ => simp [readList, Source.shape, bind, Except.bind]

theorem restores_list {write : α → Json} {as : List α}
    (h : ∀ a ∈ as, Restores read (write a) a) :
    Restores (readList read) (.array (as.map write)) as := by
  intro v hv
  obtain ⟨ws, rfl, hws⟩ := hv.exists_array
  have hpairs := (List.forall₂_and_left as ws).mpr ⟨h, List.forall₂_map_left_iff.mp hws⟩
  have hitems : ws.mapM read = .ok as :=
    mapM_eq_ok_iff.mpr (hpairs.flip.imp fun w a hwa => hwa.1 w hwa.2)
  exact readList_eq_ok_iff.mpr ⟨ws, rfl, hitems⟩

end

/-! ## Records -/

theorem lookup_optionalMember {α : Type} (key k : String) (write : α → Json) (value : Option α) :
    (optionalMember key write value).lookup k = if k = key then value.map write else none := by
  cases value with
  | none => simp [optionalMember]
  | some a =>
    by_cases hk : k = key
    · simp [optionalMember, hk]
    · simp [optionalMember, hk, List.lookup_cons, beq_eq_false_iff_ne.mpr hk]

theorem lookup_flagMember (key k : String) (flag : Bool) :
    (flagMember key flag).lookup k = if k = key ∧ flag = true then some (.bool true) else none := by
  cases flag with
  | false => simp [flagMember]
  | true =>
    by_cases hk : k = key
    · simp [flagMember, hk]
    · simp [flagMember, hk, List.lookup_cons, beq_eq_false_iff_ne.mpr hk]

namespace Record

variable {α : Type} {names : List String} {written v : Json} {ns : List (String × Json)}
  {read : Json → Except Fault α} {a fallback : α} {key : String}

theorem exists_part?_of_lookup (names : List String) (h : ns.lookup key = some v) :
    ∃ place, (ofMembers names ns).part? key = some (place, v) := by
  have hpart := part?_ofMembers names ns key
  rw [h, Option.map_eq_some_iff] at hpart
  obtain ⟨⟨place, value⟩, hpart, rfl⟩ := hpart
  exact ⟨place, hpart⟩

/-- What is under a key of an object like the written one is restored by the reader of the key. -/
theorem exists_part?_restored (names : List String)
    (hns : Option.Rel Alike (some written) (ns.lookup key)) (h : Restores read written a) :
    ∃ place v, (ofMembers names ns).part? key = some (place, v) ∧
      Placed.of place (read v) = .ok a := by
  cases hv : ns.lookup key with
  | none => simp [hv] at hns
  | some v =>
    rw [hv, Option.rel_some_some] at hns
    obtain ⟨place, hpart⟩ := exists_part?_of_lookup names hv
    have hread : Placed.of place (read v) = .ok a := by
      rw [h v hns]
      rfl
    exact ⟨place, v, hpart, hread⟩

theorem required_restores (hns : Option.Rel Alike (some written) (ns.lookup key))
    (h : Restores read written a) : (ofMembers names ns).required key read = .ok a := by
  obtain ⟨place, v, hpart, hread⟩ := exists_part?_restored names hns h
  rwa [required, hpart]

theorem optional_restores (hns : Option.Rel Alike (some written) (ns.lookup key))
    (h : Restores read written a) : (ofMembers names ns).optional key fallback read = .ok a := by
  obtain ⟨place, v, hpart, hread⟩ := exists_part?_restored names hns h
  rwa [optional, hpart]

theorem optional_restores_none (hns : Option.Rel Alike none (ns.lookup key)) :
    (ofMembers names ns).optional key fallback read = .ok fallback := by
  cases hv : ns.lookup key with
  | none =>
    have hpart := part?_ofMembers names ns key
    rw [hv, Option.map_eq_none_iff] at hpart
    rw [optional, hpart]
  | some v => simp [hv] at hns

/-- A member that is there when it is set is read as it was set. -/
theorem optional_restores_member (write : α → Json) {value : Option α}
    (hns : Option.Rel Alike (value.map write) (ns.lookup key))
    (h : ∀ a ∈ value, write a ≠ .null ∧ Restores read (write a) a) :
    (ofMembers names ns).optional key none (readOptional read) = .ok value := by
  cases value with
  | none => exact optional_restores_none hns
  | some a =>
    obtain ⟨hnull, hrestores⟩ := h a rfl
    exact optional_restores hns (restores_optional hrestores hnull)

theorem optional_restores_flag {flag : Bool}
    (hns : Option.Rel Alike (if flag then some (.bool true) else none) (ns.lookup key)) :
    (ofMembers names ns).optional key false readBool = .ok flag := by
  cases flag with
  | false => exact optional_restores_none hns
  | true => exact optional_restores hns (restores_bool true)

end Record

end Json

end FormCompiler
