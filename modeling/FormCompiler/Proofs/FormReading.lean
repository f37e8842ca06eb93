import FormCompiler.Form.Json
import FormCompiler.Proofs.FieldPreview
import FormCompiler.Proofs.ValueReading

/-! Reading undoes writing for forms: the form that has been written is read from its value,
whatever the order of the members. What a field leaves unset is not written, and it is unset
again when the member is not found. -/

namespace FormCompiler

open Json

theorem FieldKind.ofName?_name (kind : FieldKind) : ofName? kind.name = some kind := by
  cases kind <;> decide

theorem ValueType.ofName?_name (t : ValueType) : ofName? t.name = some t := by
  cases t <;> decide

theorem Layout.ofName?_name (layout : Layout) : ofName? layout.name = some layout := by
  cases layout <;> decide

theorem FieldOption.restores (o : FieldOption) : Restores FieldOption.read o.toJson o := by
  intro v hv
  obtain ⟨ns, rfl, hns⟩ := hv.exists_object
  rw [read, readRecord_object]
  set r := Record.ofMembers ["label", "value"] ns
  have hlabel : r.required "label" readString = .ok o.label :=
    Record.required_restores (by simpa using hns "label") (restores_string _)
  have hvalue : r.required "value" readString = .ok o.value :=
    Record.required_restores (by simpa [List.lookup_cons] using hns "value") (restores_string _)
  rw [hlabel, hvalue]
  rfl

/-- Each member on its own: a required one is there, and another is there when it is set. -/
theorem Field.restores {f : Field} (hf : f.FiniteNumbers) : Restores Field.read f.toJson f := by
  intro v hv
  obtain ⟨ns, rfl, hns⟩ := hv.exists_object
  simp only [List.lookup_append, lookup_optionalMember, lookup_flagMember] at hns
  have hstring (s : String) : Json.string s ≠ .null ∧ Restores readString (.string s) s :=
    ⟨by simp, restores_string s⟩
  have hfinite {x : Binary64} (hx : x.isFinite = true) :
      Json.ofBinary64 x ≠ .null ∧ Restores readBinary64 (.ofBinary64 x) x :=
    ⟨by simp [Json.ofBinary64, hx], restores_binary64 hx⟩
  have hlength (n : UInt64) : Json.ofNat n.toNat ≠ .null ∧ Restores readUInt64 (.ofNat n.toNat) n :=
    ⟨by simp [Json.ofNat], restores_uint64 n⟩
  rw [read, readRecord_object]
  set r := Record.ofMembers memberNames ns
  have hid : r.required "id" readString = .ok f.id :=
    Record.required_restores (by simpa [List.lookup_cons] using hns "id") (restores_string _)
  have hkind : r.required "type" (readChoice FieldKind.ofName?) = .ok f.kind :=
    Record.required_restores (by simpa [List.lookup_cons] using hns "type")
      (restores_choice f.kind.ofName?_name)
  have hlabel : r.required "label" readString = .ok f.label :=
    Record.required_restores (by simpa [List.lookup_cons] using hns "label") (restores_string _)
  have hname : r.required "name" readString = .ok f.name :=
    Record.required_restores (by simpa [List.lookup_cons] using hns "name") (restores_string _)
  have hrequired : r.optional "required" false readBool = .ok f.required :=
    Record.optional_restores (by simpa [List.lookup_cons] using hns "required") (restores_bool _)
  have hplaceholder : r.optional "placeholder" none (readOptional readString) = .ok f.placeholder :=
    Record.optional_restores_member .string (by simpa [List.lookup_cons] using hns "placeholder")
      fun s _ => hstring s
  have hoptions : r.optional "options" none (readOptional (readList FieldOption.read)) =
      .ok f.options :=
    Record.optional_restores_member (fun os => .array (os.map FieldOption.toJson))
      (by simpa [List.lookup_cons] using hns "options")
      fun os _ => ⟨by simp, restores_list fun o _ => o.restores⟩
  have hminLength : r.optional "minLength" none (readOptional readUInt64) = .ok f.minLength :=
    Record.optional_restores_member (fun n => .ofNat n.toNat)
      (by simpa [List.lookup_cons] using hns "minLength") fun n _ => hlength n
  have hmaxLength : r.optional "maxLength" none (readOptional readUInt64) = .ok f.maxLength :=
    Record.optional_restores_member (fun n => .ofNat n.toNat)
      (by simpa [List.lookup_cons] using hns "maxLength") fun n _ => hlength n
  have hmin : r.optional "min" none (readOptional readBinary64) = .ok f.min :=
    Record.optional_restores_member .ofBinary64 (by simpa [List.lookup_cons] using hns "min")
      fun x hx => hfinite (hf.min x hx)
  have hmax : r.optional "max" none (readOptional readBinary64) = .ok f.max :=
    Record.optional_restores_member .ofBinary64 (by simpa [List.lookup_cons] using hns "max")
      fun x hx => hfinite (hf.max x hx)
  have hstep : r.optional "step" none (readOptional readBinary64) = .ok f.step :=
    Record.optional_restores_member .ofBinary64 (by simpa [List.lookup_cons] using hns "step")
      fun x hx => hfinite (hf.step x hx)
  have hrows : r.optional "rows" none (readOptional readUInt32) = .ok f.rows :=
    Record.optional_restores_member (fun n => .ofNat n.toNat)
      (by simpa [List.lookup_cons] using hns "rows")
      fun n _ => ⟨by simp [Json.ofNat], restores_uint32 n⟩
  have hvalueType : r.optional "valueType" none (readOptional (readChoice ValueType.ofName?)) =
      .ok f.valueType :=
    Record.optional_restores_member (fun t => .string t.name)
      (by simpa [List.lookup_cons] using hns "valueType")
      fun t _ => ⟨by simp, restores_choice t.ofName?_name⟩
  have hpast : r.optional "disablePastDates" false readBool = .ok f.disablePastDates :=
    Record.optional_restores_flag (by simpa [List.lookup_cons] using hns "disablePastDates")
  have hfuture : r.optional "disableFutureDates" false readBool = .ok f.disableFutureDates :=
    Record.optional_restores_flag (by simpa [List.lookup_cons] using hns "disableFutureDates")
  rw [hid, hkind, hlabel, hname, hrequired, hplaceholder, hoptions, hminLength, hmaxLength, hmin,
    hmax, hstep, hrows, hvalueType, hpast, hfuture]
  rfl

/-- A form with finite numbers is what is read from all that is like its value. -/
theorem Form.read_of_alike_toJson {form : Form} (h : ∀ f ∈ form.fields, f.FiniteNumbers) {v : Json}
    (hv : form.toJson.Alike v) : Form.read v = .ok form := by
  obtain ⟨ns, rfl, hns⟩ := hv.exists_object
  rw [read, readRecord_object]
  set r := Record.ofMembers ["name", "layout", "fields"] ns
  have hname : r.required "name" readString = .ok form.name :=
    Record.required_restores (by simpa [List.lookup_cons] using hns "name") (restores_string _)
  have hlayout : r.optional "layout" .oneColumn (readChoice Layout.ofName?) = .ok form.layout :=
    Record.optional_restores (by simpa [List.lookup_cons] using hns "layout")
      (restores_choice form.layout.ofName?_name)
  have hfields : r.optional "fields" [] (readList Field.read) = .ok form.fields :=
    Record.optional_restores (by simpa [List.lookup_cons] using hns "fields")
      (restores_list fun f hf => Field.restores (h f hf))
  rw [hname, hlayout, hfields]
  rfl

/-- Zero is no less set than other numbers, an empty list of options is there, and a bound keeps its
sign. Here the members come ascending by key. -/
theorem Form.read_of_alike_toJson_zeros :
    let f : Field :=
      { id := "element-1", kind := .radio, label := "Size", name := "size", options := some []
        minLength := some 0, maxLength := some 0, min := some ⟨0x8000000000000000⟩, rows := some 0 }
    let form : Form := { fields := [f] }
    let item : Json := .object
      [("id", .string "element-1"), ("label", .string "Size"), ("maxLength", .ofNat 0),
        ("min", .number (.float ⟨0x8000000000000000⟩)), ("minLength", .ofNat 0),
        ("name", .string "size"), ("options", .array []), ("required", .bool false),
        ("rows", .ofNat 0), ("type", .string "radio")]
    let v : Json := .object
      [("fields", .array [item]), ("layout", .string "one-column"), ("name", .string "My Form")]
    (∀ f ∈ form.fields, f.FiniteNumbers) ∧ form.toJson.Alike v ∧ Form.read v = .ok form := by
  intro f form item v
  have hfinite : ∀ f ∈ form.fields, f.FiniteNumbers := by
    intro g hg
    rw [List.mem_singleton.mp hg]
    exact ⟨by simp [f]; decide, by simp [f], by simp [f]⟩
  have hitem : f.toJson.Alike item :=
    .of_perm (by decide) (by decide) (List.forall₂_same.mpr fun m _ => ⟨rfl, .refl m.2⟩)
  have hv : form.toJson.Alike v := by
    have hperm : [("name", Json.string "My Form"), ("layout", .string "one-column"),
        ("fields", .array [f.toJson])].Perm [("fields", .array [f.toJson]),
          ("layout", .string "one-column"), ("name", .string "My Form")] := by
      decide
    refine .of_perm (by decide) hperm (.cons ⟨rfl, .array (.cons hitem .nil)⟩ ?_)
    exact .cons ⟨rfl, .refl _⟩ (.cons ⟨rfl, .refl _⟩ .nil)
  exact ⟨hfinite, hv, read_of_alike_toJson hfinite hv⟩

end FormCompiler
