import FormCompiler.Json.Basic
import Mathlib.Data.List.Nodup

/-! The keys of an object. They are the names under which it has members, each once, in ascending
order, however the members were written. -/

namespace FormCompiler.Json

theorem mem_insertKey {key k : String} {ks : List String} :
    k ∈ insertKey key ks ↔ k = key ∨ k ∈ ks := by
  induction ks with
  | nil => simp [insertKey]
  | cons first rest ih =>
    rw [insertKey]
    split
    · simp
    · split
      · next he => simp [he]
      · simp only [List.mem_cons, ih]
        exact or_left_comm

theorem insertKey_pairwise {key : String} {ks : List String} (h : ks.Pairwise (· < ·)) :
    (insertKey key ks).Pairwise (· < ·) := by
  induction ks with
  | nil => exact List.pairwise_singleton _ _
  | cons first rest ih =>
    obtain ⟨hfirst, hrest⟩ := List.pairwise_cons.mp h
    rw [insertKey]
    split
    · next hlt =>
      refine List.pairwise_cons.mpr ⟨fun k hk => ?_, h⟩
      rcases List.mem_cons.mp hk with rfl | hk
      · exact hlt
      · exact String.lt_trans hlt (hfirst k hk)
    · next hge =>
      split
      · exact h
      · next hne =>
        have hlt : first < key := Std.lt_of_le_of_ne (String.not_lt.mp hge) (Ne.symm hne)
        refine List.pairwise_cons.mpr ⟨fun k hk => ?_, ih hrest⟩
        rcases mem_insertKey.mp hk with rfl | hk
        · exact hlt
        · exact hfirst k hk

theorem mem_keys_object {k : String} {members : List (String × Json)} :
    k ∈ (object members).keys ↔ k ∈ members.map Prod.fst := by
  change k ∈ members.foldr (fun m ks => insertKey m.1 ks) [] ↔ _
  induction members with
  | nil => simp
  | cons m rest ih => simp [mem_insertKey, ih]

theorem lookup_of_mem {members : List (String × Json)} (h : (members.map Prod.fst).Nodup)
    {key : String} {v : Json} (hm : (key, v) ∈ members) : members.lookup key = some v := by
  induction members with
  | nil => simp at hm
  | cons m rest ih =>
    obtain ⟨hfirst, hrest⟩ := List.nodup_cons.mp h
    rcases List.mem_cons.mp hm with rfl | hm
    · simp
    · have hne : key ≠ m.1 := fun he => hfirst (he ▸ List.mem_map_of_mem hm)
      rw [List.lookup_cons, beq_eq_false_iff_ne.mpr hne]
      exact ih hrest hm

theorem mem_keys_iff {v : Json} {key : String} : key ∈ v.keys ↔ v.member? key ≠ none := by
  cases v with
  | object members =>
    rw [mem_keys_object, member?, ne_eq, List.lookup_eq_none_iff]
    simp
  | null | bool _ | number _ | string _ | array _ => simp [keys, member?]

theorem keys_pairwise (v : Json) : v.keys.Pairwise (· < ·) := by
  cases v with
  | object members =>
    change (members.foldr (fun m ks => insertKey m.1 ks) []).Pairwise (· < ·)
    induction members with
    | nil => exact List.Pairwise.nil
    | cons m rest ih => exact insertKey_pairwise ih
  | null | bool _ | number _ | string _ | array _ => exact List.Pairwise.nil

end FormCompiler.Json
