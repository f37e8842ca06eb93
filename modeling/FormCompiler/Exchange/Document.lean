import FormCompiler.Json.Basic

/-! Exchange documents: forms as another tool describes them. Its members are loose, so most of
them hold any JSON. -/

namespace FormCompiler.Exchange

structure Project where
  id : UInt64 := 10001
  name : String := "Dynamic Form Builder"
deriving DecidableEq, Inhabited

structure Header where
  formId : Json := .null
  formName : Json := .null
deriving DecidableEq, Inhabited

/-- What an entry says of the type of its field. -/
structure TypeSpec where
  type : Option String := none
  defaultValues : List Json := []
  maxLength : Json := .null
  valueType : String := ""
  required : Json := .null
deriving DecidableEq, Inhabited

structure Entry where
  fieldId : Json := .null
  caption : String := ""
  name : String := ""
  spec : TypeSpec := {}
deriving DecidableEq, Inhabited

structure Document where
  project : Project := {}
  header : Header := {}
  entries : List Entry := []
deriving DecidableEq, Inhabited

def Document.formName? (d : Document) : Option String :=
  match d.header.formName with
  | .string name => if name = "" then none else some name
  | _ => none

end FormCompiler.Exchange
