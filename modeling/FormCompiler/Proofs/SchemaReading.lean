import FormCompiler.Proofs.ValueReading
import FormCompiler.Rule.Json

/-! Reading undoes writing for schemas. A check is written with its kind among its members, so the
kind is read first and says how the other member is to be read. -/

namespace FormCompiler

open Json

theorem Json.eq_some_string {s : String} {found : Option Json}
    (h : Option.Rel Alike (some (.string s)) found) : found = some (.string s) := by
  cases h with
  | some h => rw [h.eq_string]

theorem BaseType.ofName?_name (base : BaseType) : ofName? base.name = some base := by
  cases base <;> decide

theorem Pattern.ofName?_name (p : Pattern) : ofName? p.name = some p := by
  cases p <;> decide

namespace Check

theorem Kind.ofName?_name (kind : Kind) : Kind.ofName? kind.name = some kind := by
  cases kind <;> decide

/-- The number that a check compares with, if there is one, is finite. -/
def isFinite : Check → Bool
  | min x | max x => x.isFinite
  | _ => true

theorem readKind_name (kind : Kind) : readKind (.string kind.name) = .ok kind := by
  have hread : readString (.string kind.name : Json) = .ok kind.name := rfl
  rw [readKind, hread]
  simp only [bind, Except.bind, kind.ofName?_name]
  rfl

theorem restores_pattern (p : Pattern) : Restores readPattern (.string p.name) p := by
  intro v hv
  rw [hv.eq_string]
  exact restores_choice p.ofName?_name _ (.refl _)

/-- What a check is checked against is the only other member. -/
theorem readRecord_member {α : Type} {make : α → Check} {read : Json → Except Fault α}
    {key : String} {written : Json} {a : α} {ns : List (String × Json)}
    (hns : Option.Rel Alike (some written) (ns.lookup key)) (h : Restores read written a) :
    readRecord [key] (fun r => make <$> r.required key read) (.object ns) = .ok (make a) := by
  rw [readRecord_object, Record.required_restores hns h]
  rfl

theorem readPayload_restores {c : Check} (hc : c.isFinite = true) {ns : List (String × Json)}
    (hns : ∀ m ∈ c.payload, Option.Rel Alike (some m.2) (ns.lookup m.1)) :
    readPayload (.object ns) c.kind = .ok c := by
  cases c with
  | minLength n | maxLength n =>
    exact readRecord_member (hns _ (List.mem_singleton_self _)) (restores_uint64 n)
  | min x | max x =>
    exact readRecord_member (hns _ (List.mem_singleton_self _)) (restores_binary64 hc)
  | pattern p => exact readRecord_member (hns _ (List.mem_singleton_self _)) (restores_pattern p)
  | mustBeTrue | optional => rfl

theorem payload_key_ne {c : Check} : ∀ m ∈ c.payload, m.1 ≠ "kind" := by
  cases c <;> simp [payload]

theorem lookup_payload {c : Check} : ∀ m ∈ c.payload, c.payload.lookup m.1 = some m.2 := by
  cases c <;> simp [payload]

theorem restores {c : Check} (hc : c.isFinite = true) : Restores Check.read c.toJson c := by
  intro v hv
  obtain ⟨ns, rfl, hns⟩ := hv.exists_object
  have hkind : ns.lookup "kind" = some (.string c.kind.name) :=
    eq_some_string (by simpa using hns "kind")
  have hread : Check.read (.object ns) = readPayload (.object ns) c.kind := by
    rw [Check.read, hkind]
    simp only [readKind_name]
    rfl
  rw [hread]
  refine readPayload_restores hc fun m hm => ?_
  have hother : (m.1 == "kind") = false := beq_eq_false_iff_ne.mpr (payload_key_ne m hm)
  have hrel := hns m.1
  simpa only [List.lookup_cons, hother, lookup_payload m hm] using hrel

end Check

theorem Constraint.restores {c : Constraint} (hc : c.check.isFinite = true) :
    Restores Constraint.read c.toJson c := by
  intro v hv
  obtain ⟨ns, rfl, hns⟩ := hv.exists_object
  simp only [List.lookup_cons, lookup_optionalMember] at hns
  rw [read, readRecord_object]
  set r := Record.ofMembers ["check", "message"] ns
  have hcheck : r.required "check" Check.read = .ok c.check :=
    Record.required_restores (by simpa using hns "check") (Check.restores hc)
  have hmessage : r.optional "message" none (readOptional readString) = .ok c.message :=
    Record.optional_restores_member .string (by simpa using hns "message")
      fun s _ => ⟨by simp, restores_string s⟩
  rw [hcheck, hmessage]
  rfl

theorem Rule.restores {r : Rule} (hr : ∀ c ∈ r.constraints, c.check.isFinite = true) :
    Restores Rule.read r.toJson r := by
  intro v hv
  obtain ⟨ns, rfl, hns⟩ := hv.exists_object
  simp only [List.lookup_cons, List.lookup_append, lookup_optionalMember] at hns
  rw [read, readRecord_object]
  set members := Record.ofMembers ["base", "base_message", "constraints"] ns
  have hbase : members.required "base" (readChoice BaseType.ofName?) = .ok r.base :=
    Record.required_restores (by simpa using hns "base") (restores_choice r.base.ofName?_name)
  have hmessage : members.optional "base_message" none (readOptional readString) =
      .ok r.baseMessage :=
    Record.optional_restores_member .string (by simpa using hns "base_message")
      fun s _ => ⟨by simp, restores_string s⟩
  have hconstraints : members.optional "constraints" [] (readList Constraint.read) =
      .ok r.constraints :=
    Record.optional_restores (by simpa using hns "constraints")
      (restores_list fun c hc => Constraint.restores (hr c hc))
  rw [hbase, hmessage, hconstraints]
  rfl

theorem SchemaEntry.restores {e : SchemaEntry} (he : ∀ c ∈ e.rule.constraints, c.check.isFinite = true) :
    Restores SchemaEntry.read e.toJson e := by
  intro v hv
  obtain ⟨ns, rfl, hns⟩ := hv.exists_object
  rw [read, readRecord_object]
  set r := Record.ofMembers ["name", "rule"] ns
  have hname : r.required "name" readString = .ok e.name :=
    Record.required_restores (by simpa using hns "name") (restores_string _)
  have hrule : r.required "rule" Rule.read = .ok e.rule :=
    Record.required_restores (by simpa [List.lookup_cons] using hns "rule") (Rule.restores he)
  rw [hname, hrule]
  rfl

/-- A schema that compares with finite numbers is what is read from all that is like its value. -/
theorem Schema.read_eq_ok_of_alike {s : Schema}
    (hs : ∀ e ∈ s.entries, ∀ c ∈ e.rule.constraints, c.check.isFinite = true) {v : Json}
    (hv : s.toJson.Alike v) : Schema.read v = .ok s := by
  obtain ⟨ns, rfl, hns⟩ := hv.exists_object
  rw [read, readRecord_object]
  set r := Record.ofMembers ["entries"] ns
  have hentries : r.required "entries" (readList SchemaEntry.read) = .ok s.entries :=
    Record.required_restores (by simpa using hns "entries")
      (restores_list fun e he => SchemaEntry.restores (hs e he))
  rw [hentries]
  rfl

/-- The kind of a check may come after its number, and the number keeps its sign. -/
theorem Schema.read_eq_ok_of_alike_swapped :
    let bound : Binary64 := ⟨0x8000000000000000⟩
    let rule : Rule :=
      { base := .number, constraints := [{ check := .min bound }, { check := .optional }] }
    let s : Schema := { entries := [⟨"age", rule⟩] }
    let check : Json := .object [("value", .number (.float bound)), ("kind", .string "min")]
    let constraints : Json := .array
      [.object [("check", check)], .object [("check", .object [("kind", .string "optional")])]]
    let v : Json := .object [("entries", .array
      [.object [("name", .string "age"),
        ("rule", .object [("base", .string "number"), ("constraints", constraints)])]])]
    (∀ e ∈ s.entries, ∀ c ∈ e.rule.constraints, c.check.isFinite = true) ∧ s.toJson.Alike v ∧
      Schema.read v = .ok s := by
  intro bound rule s check constraints v
  have hfinite : ∀ e ∈ s.entries, ∀ c ∈ e.rule.constraints, c.check.isFinite = true := by decide
  have hcheck : (Check.min bound).toJson.Alike check :=
    .of_perm (by decide) (by decide) (List.forall₂_same.mpr fun m _ => ⟨rfl, .refl m.2⟩)
  have hbound : ({ check := .min bound } : Constraint).toJson.Alike (.object [("check", check)]) :=
    .of_perm (by decide) (.refl _) (.cons ⟨rfl, hcheck⟩ .nil)
  have hrule : rule.toJson.Alike
      (.object [("base", .string "number"), ("constraints", constraints)]) :=
    .of_perm (by decide) (.refl _)
      (.cons ⟨rfl, .refl _⟩ (.cons ⟨rfl, .array (.cons hbound (.cons (.refl _) .nil))⟩ .nil))
  have hentry : (⟨"age", rule⟩ : SchemaEntry).toJson.Alike (.object [("name", .string "age"),
      ("rule", .object [("base", .string "number"), ("constraints", constraints)])]) :=
    .of_perm (by decide) (.refl _) (.cons ⟨rfl, .refl _⟩ (.cons ⟨rfl, hrule⟩ .nil))
  have hv : s.toJson.Alike v :=
    .of_perm (by decide) (.refl _) (.cons ⟨rfl, .array (.cons hentry .nil)⟩ .nil)
  exact ⟨hfinite, hv, read_eq_ok_of_alike hfinite hv⟩

end FormCompiler
