import FormCompiler.Form.Basic
import FormCompiler.Json.Basic

/-! The JSON Schema of form files. The names that it lists are those that forms are read with. -/

namespace FormCompiler.FormSchema

def words (names : List String) : Json := .array (names.map .string)

def typed (type : String) : Json := .object [("type", .string type)]

def orNull (type : String) : String × Json := ("type", words [type, "null"])

def reference (name : String) : String × Json := ("$ref", .string ("#/$defs/" ++ name))

def double : Json := .object [("format", .string "double"), orNull "number"]

def whole (format : String) : Json :=
  .object [("format", .string format), ("minimum", .ofNat 0), orNull "integer"]

def described (description : String) (properties : List (String × Json)) (required : List String) :
    List (String × Json) :=
  [("description", .string description), ("properties", .object properties),
    ("required", words required)]

def field : Json := .object <|
  described "A single form field and all of its optional constraints."
    [("disableFutureDates", typed "boolean"),
      ("disablePastDates", typed "boolean"),
      ("id", typed "string"),
      ("label", typed "string"),
      ("max", double),
      ("maxLength", whole "uint"),
      ("min", double),
      ("minLength", whole "uint"),
      ("name", typed "string"),
      ("options", .object [("items", .object [reference "FieldOption"]), orNull "array"]),
      ("placeholder", .object [orNull "string"]),
      ("required", .object [("default", .bool false), ("type", .string "boolean")]),
      ("rows", whole "uint32"),
      ("step", double),
      ("type", .object [reference "FieldType"]),
      ("valueType", .object [("anyOf", .array [.object [reference "ValueType"], typed "null"])])]
    ["id", "type", "label", "name"] ++
  [("type", .string "object")]

def fieldOption : Json := .object <|
  described "One entry of a choice field." [("label", typed "string"), ("value", typed "string")]
    ["label", "value"] ++
  [("type", .string "object")]

def enumeration (description : String) (names : List String) : Json :=
  .object [("description", .string description), ("enum", words names), ("type", .string "string")]

/-- The one value type that is described is listed apart from the others. -/
def valueType : Json :=
  let others := (ValueType.all.filter (· ≠ .number)).map ValueType.name
  .object
    [("description",
        .string "Refines how text-like and date fields interpret their content."),
      ("oneOf", .array
        [.object [("enum", words others), ("type", .string "string")],
          .object [("const", .string ValueType.number.name),
            ("description", .string "Digits only."), ("type", .string "string")]])]

def form : Json :=
  .object
    [("$defs", .object
        [("FieldDefinition", field),
          ("FieldOption", fieldOption),
          ("FieldType", enumeration "Closed set of field kinds understood by the compiler."
            (FieldKind.all.map FieldKind.name)),
          ("FormLayout", enumeration "Container arrangement of the rendered fields."
            (Layout.all.map Layout.name)),
          ("ValueType", valueType)]),
      ("$schema", .string "https://json-schema.org/draft/2020-12/schema"),
      ("description",
        .string "Top-level form definition: field order is render and tab order."),
      ("properties", .object
        [("fields", .object [("default", .array []),
            ("items", .object [reference "FieldDefinition"]), ("type", .string "array")]),
          ("layout", .object [reference "FormLayout", ("default", .string Layout.oneColumn.name)]),
          ("name", typed "string")]),
      ("required", words ["name"]),
      ("title", .string "FormDefinition"),
      ("type", .string "object")]

end FormCompiler.FormSchema
