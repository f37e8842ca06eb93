import FormCompiler.Exchange.Document
import FormCompiler.Json.Record
import FormCompiler.Json.Tree.Reader

/-! Exchange documents as JSON. A member of the wrong shape is read as if it held nothing. There
are two readers of documents: one for any JSON, which asks only for a list of objects, and one for
texts, which knows every part by its shape. -/

namespace FormCompiler.Exchange

open Json

section

variable {σ : Type} [Source σ]

def Project.read : σ → Except Fault Project :=
  readRecord ["id", "name"] fun r =>
    Project.mk
      <$> r.optional "id" 10001 (readLenient readUInt64 0)
      <*> r.optional "name" "Dynamic Form Builder" (readLenient readString "")

def Header.read : σ → Except Fault Header :=
  readRecord ["FormId", "FormName"] fun r =>
    Header.mk
      <$> r.optional "FormId" .null Source.value
      <*> r.optional "FormName" .null Source.value

def TypeSpec.read : σ → Except Fault TypeSpec :=
  readRecord ["Type", "DefaultValues", "MaxLength", "ValueType", "Required"] fun r =>
    TypeSpec.mk
      <$> r.optional "Type" none (readLenient (readOptional readString) none)
      <*> r.optional "DefaultValues" [] (readLenient (readList Source.value) [])
      <*> r.optional "MaxLength" .null Source.value
      <*> r.optional "ValueType" "" (readLenient readString "")
      <*> r.optional "Required" .null Source.value

def Entry.read : σ → Except Fault Entry :=
  readRecord ["FieldId", "FieldCaption", "FieldName", "FieldType"] fun r =>
    Entry.mk
      <$> r.optional "FieldId" .null Source.value
      <*> r.optional "FieldCaption" "" (readLenient readString "")
      <*> r.optional "FieldName" "" (readLenient readString "")
      <*> r.optional "FieldType" {} (readLenient TypeSpec.read {})

def Document.read : σ → Except Fault Document :=
  readRecord ["project", "Form", "FormFields"] fun r =>
    Document.mk
      <$> r.optional "project" {} (readLenient Project.read {})
      <*> r.optional "Form" {} (readLenient Header.read {})
      <*> r.required "FormFields" (readList Entry.read)

end

def Document.ofText (text : String) : Except Fault Document := do
  let (t, trailing) := Tree.ofText text
  let document ← read t
  accept trailing
  return document

inductive ImportError
  | json (fault : Fault)
  | missingFieldList
deriving DecidableEq, Inhabited

def ImportError.message : ImportError → String
  | json _ => "document is not valid JSON"
  | missingFieldList => "document has no FormFields array of objects"

/-- What a reader makes of a value, or what stands for nothing. -/
def orDefault {α : Type} [Inhabited α] (read : Json → Except Fault α) (fallback : α) :
    Option Json → α
  | none => fallback
  | some v => match read v with
    | .ok a => a
    | .error _ => fallback

/-- The document in an object whose list of fields holds objects only. -/
def Document.ofJson? (v : Json) : Option Document :=
  match v.member? "FormFields" with
  | some (.array items) =>
    if items.all Json.isObject then
      some
        { project := orDefault Project.read {} (v.member? "project")
          header := orDefault Header.read {} (v.member? "Form")
          entries := items.map fun item => orDefault Entry.read {} (some item) }
    else none
  | _ => none

/-- Reads a text by way of its JSON value. -/
def Document.parse (text : String) : Except ImportError Document :=
  match Json.ofText text with
  | .error fault => .error (.json fault)
  | .ok v => match ofJson? v with
    | some d => .ok d
    | none => .error .missingFieldList

def Project.toJson (p : Project) : Json :=
  .object [("id", .ofNat p.id.toNat), ("name", .string p.name)]

def Header.toJson (h : Header) : Json :=
  .object [("FormId", h.formId), ("FormName", h.formName)]

def TypeSpec.toJson (s : TypeSpec) : Json :=
  .object [("Type", (s.type.map .string).getD .null), ("DefaultValues", .array s.defaultValues),
    ("MaxLength", s.maxLength), ("ValueType", .string s.valueType), ("Required", s.required)]

def Entry.toJson (e : Entry) : Json :=
  .object [("FieldId", e.fieldId), ("FieldCaption", .string e.caption),
    ("FieldName", .string e.name), ("FieldType", e.spec.toJson)]

def Document.toJson (d : Document) : Json :=
  .object [("project", d.project.toJson), ("Form", d.header.toJson),
    ("FormFields", .array (d.entries.map Entry.toJson))]

end FormCompiler.Exchange
