import FormCompiler.Exchange.Document
import FormCompiler.Form.Basic

/-! Writing a form as an exchange document. The document has fewer kinds of fields than a form:
what it cannot say is written as text. -/

namespace FormCompiler

open Exchange

namespace Field

def typeCode (f : Field) : String :=
  match f.kind with
  | .select | .radio => "DropDown"
  | .checkboxGroup => "MultiCheck"
  | .date => if f.hasValueType .datetime then "DATETIME" else "DATE"
  | .file => "FILE"
  | .text | .textarea | .checkbox | .password | .number => "text"

/-- The code of how the content of a field is meant. -/
def valueCode (f : Field) : String :=
  match f.kind with
  | .text => match f.valueType with
    | some .number => "NUMBERONLY"
    | some .text => "TEXTONLY"
    | some .alphanumeric => "TEXTWITHNUMBER"
    | _ => ""
  | .textarea => "TEXTONLY"
  | .date => if f.hasValueType .datetime then "DATEANDTIME" else ""
  | _ => ""

def optionValues (f : Field) : List Json :=
  f.optionList.map fun o => .object [("label", .string o.label), ("value", .string o.value)]

/-- The entry of a field at a position that counts from one. -/
def toEntry (position : Nat) (f : Field) : Entry where
  fieldId := .string (toString position)
  caption := f.label
  name := f.name
  spec :=
    { type := some f.typeCode
      defaultValues := if f.kind.isChoice then f.optionValues else []
      maxLength := .string ((f.maxLength.map toString).getD "")
      valueType := f.valueCode
      required := .string (if f.required then "YES" else "NO") }

end Field

namespace Form

def entriesFrom (position : Nat) : List Field → List Entry
  | [] => []
  | f :: rest => f.toEntry position :: entriesFrom (position + 1) rest

def toDocument (form : Form) : Document where
  header := { formId := .ofNat 1, formName := .string form.name }
  entries := entriesFrom 1 form.fields

end Form

end FormCompiler
