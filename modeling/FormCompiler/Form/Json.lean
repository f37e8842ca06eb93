import FormCompiler.Form.Basic
import FormCompiler.Json.Record
import FormCompiler.Json.Tree.Reader

/-! Forms and their fields as JSON. What a field leaves unset is left out, and so are the two date
flags unless they are set. -/

namespace FormCompiler

open Json

namespace FieldOption

def toJson (o : FieldOption) : Json :=
  .object [("label", .string o.label), ("value", .string o.value)]

def read {σ : Type} [Source σ] : σ → Except Fault FieldOption :=
  readRecord ["label", "value"] fun r =>
    FieldOption.mk <$> r.required "label" readString <*> r.required "value" readString

end FieldOption

namespace Field

def memberNames : List String :=
  ["id", "type", "label", "name", "required", "placeholder", "options", "minLength", "maxLength",
    "min", "max", "step", "rows", "valueType", "disablePastDates", "disableFutureDates"]

def toJson (f : Field) : Json := .object <|
  [("id", .string f.id), ("type", .string f.kind.name), ("label", .string f.label),
    ("name", .string f.name), ("required", .bool f.required)] ++
  optionalMember "placeholder" .string f.placeholder ++
  optionalMember "options" (fun os => .array (os.map FieldOption.toJson)) f.options ++
  optionalMember "minLength" (fun n => .ofNat n.toNat) f.minLength ++
  optionalMember "maxLength" (fun n => .ofNat n.toNat) f.maxLength ++
  optionalMember "min" .ofBinary64 f.min ++
  optionalMember "max" .ofBinary64 f.max ++
  optionalMember "step" .ofBinary64 f.step ++
  optionalMember "rows" (fun n => .ofNat n.toNat) f.rows ++
  optionalMember "valueType" (fun t => .string t.name) f.valueType ++
  flagMember "disablePastDates" f.disablePastDates ++
  flagMember "disableFutureDates" f.disableFutureDates

def read {σ : Type} [Source σ] : σ → Except Fault Field :=
  readRecord memberNames fun r =>
    Field.mk
      <$> r.required "id" readString
      <*> r.required "type" (readChoice FieldKind.ofName?)
      <*> r.required "label" readString
      <*> r.required "name" readString
      <*> r.optional "required" false readBool
      <*> r.optional "placeholder" none (readOptional readString)
      <*> r.optional "options" none (readOptional (readList FieldOption.read))
      <*> r.optional "minLength" none (readOptional readUInt64)
      <*> r.optional "maxLength" none (readOptional readUInt64)
      <*> r.optional "min" none (readOptional readBinary64)
      <*> r.optional "max" none (readOptional readBinary64)
      <*> r.optional "step" none (readOptional readBinary64)
      <*> r.optional "rows" none (readOptional readUInt32)
      <*> r.optional "valueType" none (readOptional (readChoice ValueType.ofName?))
      <*> r.optional "disablePastDates" false readBool
      <*> r.optional "disableFutureDates" false readBool

end Field

namespace Form

def toJson (form : Form) : Json :=
  .object [("name", .string form.name), ("layout", .string form.layout.name),
    ("fields", .array (form.fields.map Field.toJson))]

def read {σ : Type} [Source σ] : σ → Except Fault Form :=
  readRecord ["name", "layout", "fields"] fun r =>
    Form.mk
      <$> r.required "name" readString
      <*> r.optional "layout" .oneColumn (readChoice Layout.ofName?)
      <*> r.optional "fields" [] (readList Field.read)

def ofText (text : String) : Except Fault Form := do
  let (t, trailing) := Tree.ofText text
  let form ← read t
  accept trailing
  return form

end Form

end FormCompiler
