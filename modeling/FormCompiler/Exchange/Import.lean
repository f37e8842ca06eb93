import FormCompiler.Exchange.Document
import FormCompiler.Form.Basic
import FormCompiler.Json.Printer

/-! Reading an exchange document as a form. Nothing is refused: what cannot be understood leaves
the part of the field unset. -/

namespace FormCompiler.Exchange

/-- The kind for a type code, in whatever case it is written. -/
def kindOfCode (code : Option String) : FieldKind :=
  let is (word : String) : Bool := code.any fun c => Text.spells word c.toList
  if is "dropdown" then .select
  else if is "datetime" then .date
  else if is "multicheck" then .checkboxGroup
  else .text

def valueTypeOfCode : String → Option ValueType
  | "NUMBERONLY" => some .number
  | "TEXTONLY" => some .text
  | "TEXTWITHNUMBER" => some .alphanumeric
  | "DATEANDTIME" => some .datetime
  | _ => none

/-- The number that a text begins with, after white space and a plus sign, if it fits 64 bits. -/
def leadingNumber? (s : String) : Option Nat :=
  let digits := match Text.dropBlank s.toList with
    | '+' :: cs => cs.takeWhile Char.isDigit
    | cs => cs.takeWhile Char.isDigit
  if digits = [] ∨ UInt64.size ≤ Text.numeral digits then none else some (Text.numeral digits)

/-- The whole part of a number from zero up; what does not fit 64 bits is cut down to them. -/
def wholePart? (x : Binary64) : Option Nat :=
  if x.isFinite && (!x.isNegative || x.isZero) then some (min x.wholePart (UInt64.size - 1)) else none

/-- The greatest length that a member sets; zero sets none. -/
def maxLength? (v : Json) : Option UInt64 :=
  let number := match v with
    | .number n => wholePart? n.toBinary64
    | .string s => leadingNumber? s
    | _ => none
  (number.filter (0 < ·)).map UInt64.ofNat

def scalarText? : Json → Option String
  | .string s => some s
  | .number n => some n.text
  | .bool b => some (if b then "true" else "false")
  | _ => none

def option? (v : Json) : Option FieldOption := do
  let label ← v.member? "label" >>= scalarText?
  let value ← v.member? "value" >>= scalarText?
  return ⟨label, value⟩

/-- The options of default values that begin with an object; unreadable ones are left out. -/
def options? : List Json → Option (List FieldOption)
  | .object members :: rest => some ((.object members :: rest).filterMap option?)
  | _ => none

def isRequired : Json → Bool
  | .bool b => b
  | .string s => s == "YES"
  | _ => false

/-- The field of an entry at a position that counts from one. -/
def Entry.toField (position : Nat) (e : Entry) : Field :=
  let kind := kindOfCode e.spec.type
  { id := elementId position
    kind := kind
    label := e.caption
    name := e.name
    required := isRequired e.spec.required
    placeholder := if kind.isTextLike then some ("Enter " ++ e.caption ++ "...") else none
    options := options? e.spec.defaultValues
    maxLength := maxLength? e.spec.maxLength
    valueType := valueTypeOfCode e.spec.valueType }

/-- The fields of a document, with what else of it a form can take. -/
structure Imported where
  name : Option String
  fields : List Field
  nextId : IdCounter
deriving DecidableEq, Inhabited

def fieldsFrom (position : Nat) : List Entry → List Field
  | [] => []
  | e :: rest => e.toField position :: fieldsFrom (position + 1) rest

def Document.toImported (d : Document) : Imported where
  name := d.formName?
  fields := fieldsFrom 1 d.entries
  nextId := .startingAt (d.entries.length + 1)

/-- Puts the fields in place of those of a form, which keeps its layout, and its name unless the
document has one. -/
def Imported.applyTo (i : Imported) (current : Form) : Form :=
  { name := i.name.getD current.name, layout := current.layout, fields := i.fields }

end FormCompiler.Exchange
