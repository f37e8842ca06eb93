import FormCompiler.Json.Record

/-! Members of objects: what changing one of them leaves as it was, and how a record is read from
them. When no part of a record can fail to be read, neither can the record. -/

namespace FormCompiler

namespace Json

theorem lookup_insertMember_self (key : String) (value : Json) (members : List (String × Json)) :
    (insertMember key value members).lookup key = some value := by
  induction members with
  | nil => simp [insertMember]
  | cons m rest ih =>
    obtain ⟨first, item⟩ := m
    by_cases hlt : key < first
    · simp [insertMember, hlt]
    · by_cases heq : key = first
      · simp [insertMember, heq]
      · have hne : (key == first) = false := beq_eq_false_iff_ne.mpr heq
        simp only [insertMember, hlt, heq, if_false, List.lookup_cons, hne, ih]

theorem lookup_insertMember_of_ne {key k : String} (h : k ≠ key) (value : Json)
    (members : List (String × Json)) :
    (insertMember key value members).lookup k = members.lookup k := by
  have hk : (k == key) = false := beq_eq_false_iff_ne.mpr h
  induction members with
  | nil => simp [insertMember, List.lookup_cons, hk]
  | cons m rest ih =>
    obtain ⟨first, item⟩ := m
    by_cases hlt : key < first
    · simp only [insertMember, hlt, if_true, List.lookup_cons, hk]
    · by_cases heq : key = first
      · subst heq
        simp only [insertMember, hlt, if_false, if_true, List.lookup_cons, hk]
      · simp only [insertMember, hlt, heq, if_false, List.lookup_cons, ih]

theorem lookup_filter_self (key : String) (members : List (String × Json)) :
    (members.filter fun m => m.1 ≠ key).lookup key = none := by
  rw [List.lookup_eq_none_iff]
  intro m hm
  have hne : m.1 ≠ key := by simpa using (List.mem_filter.mp hm).2
  simpa using hne.symm

theorem lookup_filter_of_ne {key k : String} (h : k ≠ key) (members : List (String × Json)) :
    (members.filter fun m => m.1 ≠ key).lookup k = members.lookup k := by
  induction members with
  | nil => rfl
  | cons m rest ih =>
    obtain ⟨first, item⟩ := m
    by_cases heq : first = key
    · have hne : (k == first) = false := by rw [heq]; exact beq_eq_false_iff_ne.mpr h
      rw [List.filter_cons_of_neg (by simpa using heq), List.lookup_cons, hne]
      exact ih
    · rw [List.filter_cons_of_pos (by simpa using heq), List.lookup_cons, List.lookup_cons, ih]

/-- An object with one member set to a value, or without that member. -/
def withMember (key : String) (value : Option Json) : Json → Json
  | object members =>
    match value with
    | some v => object (insertMember key v members)
    | none => object (members.filter fun m => m.1 ≠ key)
  | v => v

section

variable {v : Json} {key k : String}

theorem exists_members (h : v.isObject = true) : ∃ members, v = .object members := by
  cases v with
  | object members => exact ⟨members, rfl⟩
  | _ => simp [isObject] at h

theorem isObject_withMember (key : String) (value : Option Json) (v : Json) :
    (v.withMember key value).isObject = v.isObject := by
  cases v <;> cases value <;> rfl

theorem member?_withMember_self (h : v.isObject = true) (value : Option Json) :
    (v.withMember key value).member? key = value := by
  cases v with
  | object members =>
    cases value with
    | none => exact lookup_filter_self key members
    | some value => exact lookup_insertMember_self key value members
  | _ => simp [isObject] at h

theorem member?_withMember_of_ne (h : k ≠ key) (value : Option Json) (v : Json) :
    (v.withMember key value).member? k = v.member? k := by
  cases v with
  | object members =>
    cases value with
    | none => exact lookup_filter_of_ne h members
    | some value => exact lookup_insertMember_of_ne h value members
  | _ => rfl

theorem isObject_of_member? {m : Json} (h : v.member? key = some m) : v.isObject = true := by
  cases v with
  | object members => rfl
  | _ => simp [member?] at h

end

/-! ## Records -/

namespace Placed

variable {α β : Type}

@[simp]
theorem map_ok (f : α → β) (a : α) : f <$> (ok a : Placed α) = ok (f a) := rfl

@[simp]
theorem seq_ok (f : α → β) (a : α) : (ok f : Placed (α → β)) <*> ok a = ok (f a) := rfl

@[simp]
theorem seqRight_ok (a : α) (x : Placed β) : (ok a : Placed α) *> x = x := by
  cases x <;> rfl

@[simp]
theorem result_ok (a : α) : (ok a : Placed α).result = .ok a := rfl

end Placed

namespace Record

/-- The record in the members of an object that has been read before. -/
def ofMembers (names : List String) (members : List (String × Json)) : Record Json :=
  ⟨names, .named (members.map fun m => (.ok m.1, m.2)) none⟩

variable {α : Type} (names : List String) (members : List (String × Json))

/-- No member is at fault, since read values do not show that one was repeated. -/
theorem frameFault_ofMembers : (ofMembers names members).frameFault = .ok () := by
  have hmembers (i : Nat) (seen : List String) :
      membersFault names none i seen (members.map fun m => (.ok m.1, m.2)) = .ok () := by
    induction members generalizing i seen with
    | nil => rfl
    | cons m rest ih =>
      by_cases hknown : names.contains m.1
      · have hrepeat : (Source.checksRepeats Json && seen.contains m.1) = false := rfl
        simp only [List.map_cons, membersFault, hknown, hrepeat, if_true, Bool.false_eq_true,
          if_false, ih]
      · have hskip : Source.skip m.2 = .ok () := rfl
        simp only [List.map_cons, membersFault, hknown, Bool.false_eq_true, if_false, hskip, ih]
  exact hmembers 0 []

theorem part?_ofMembers (name : String) :
    ((ofMembers names members).part? name).map Prod.snd = members.lookup name := by
  have hfind (i : Nat) :
      (find? name i (members.map fun m => (.ok m.1, m.2))).map Prod.snd = members.lookup name := by
    induction members generalizing i with
    | nil => rfl
    | cons m rest ih =>
      obtain ⟨first, item⟩ := m
      by_cases heq : first = name
      · simp [find?, heq]
      · have hne : (name == first) = false := beq_eq_false_iff_ne.mpr (Ne.symm heq)
        simp only [List.map_cons, find?, heq, if_false, ih, List.lookup_cons, hne]
  exact hfind 0

theorem optional_ofMembers {read : Json → Except Fault α} {make : Json → α}
    (h : ∀ v, read v = .ok (make v)) (name : String) (fallback : α) :
    (ofMembers names members).optional name fallback read =
      .ok (((members.lookup name).map make).getD fallback) := by
  rw [optional, ← part?_ofMembers names members name]
  cases (ofMembers names members).part? name with
  | none => rfl
  | some part => simp only [h, Option.map_some, Option.getD_some]; rfl

end Record

theorem readRecord_object {α : Type} (names : List String) (build : Record Json → Placed α)
    (members : List (String × Json)) :
    readRecord names build (.object members) = (build (.ofMembers names members)).result := by
  have hread : readRecord names build (.object members) =
      ((Record.ofMembers names members).frameFault *>
        build (.ofMembers names members)).result := rfl
  rw [hread, Record.frameFault_ofMembers, Placed.seqRight_ok]

end Json

end FormCompiler
