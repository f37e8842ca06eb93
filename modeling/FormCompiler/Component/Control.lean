import FormCompiler.Component.Markup
import FormCompiler.Decimal.Notation
import FormCompiler.Field.Basic

/-! What a generated component shows for a field and what the field holds at first. -/

namespace FormCompiler

inductive AttributeKind
  | literal | expression
deriving DecidableEq, Inhabited

/-- An attribute that is there because a field says something. -/
structure Attribute where
  kind : AttributeKind
  name : String
  value : String
deriving DecidableEq, Inhabited

def Attribute.text (a : Attribute) : String :=
  match a.kind with
  | .literal => Markup.literal a.name a.value
  | .expression => Markup.expression a.name a.value

inductive Control
  | input (placeholder : String) (attributes : List Attribute)
  | password (placeholder : String) (attributes : List Attribute)
  | number (placeholder : String) (attributes : List Attribute)
  | textarea (placeholder : String) (attributes : List Attribute)
  | select (options : List FieldOption)
  | checkbox
  | checkboxGroup (options : List FieldOption)
  | radio (options : List FieldOption)
  | date (attributes : List Attribute)
  | file
deriving DecidableEq, Inhabited

namespace Control

def placeholder? : Control → Option String
  | input p _ | password p _ | number p _ | textarea p _ => some p
  | _ => none

def attributes : Control → List Attribute
  | input _ as | password _ as | number _ as | textarea _ as | date as => as
  | _ => []

def options : Control → List FieldOption
  | select os | checkboxGroup os | radio os => os
  | _ => []

end Control

namespace Field

/-- No length is printed where it is zero. -/
def lengthAttributes (f : Field) : List Attribute :=
  let printed (name : String) (length : Option UInt64) : List Attribute :=
    (length.filter (0 < ·)).toList.map fun n => ⟨.expression, name, toString n⟩
  printed "minLength" f.minLength ++ printed "maxLength" f.maxLength

def boundAttributes (f : Field) : List Attribute :=
  let printed (name : String) (bound : Option Binary64) : List Attribute :=
    bound.toList.map fun x => ⟨.expression, name, x.literal⟩
  printed "min" f.min ++ printed "max" f.max ++ printed "step" f.step

def dateAttributes (f : Field) : List Attribute :=
  let today (name : String) : Attribute :=
    ⟨.expression, name, "new Date().toISOString().split('T')[0]"⟩
  (if f.disablePastDates then [today "min"] else []) ++
    (if f.disableFutureDates then [today "max"] else [])

def control (f : Field) : Control :=
  let placeholder := f.placeholder.getD ""
  match f.kind with
  | .text =>
    let numeric := if f.hasValueType .number then [⟨.literal, "type", "number"⟩] else []
    .input placeholder (numeric ++ f.lengthAttributes)
  | .password => .password placeholder f.lengthAttributes
  | .number => .number placeholder f.boundAttributes
  | .textarea =>
    let rows : Attribute := ⟨.expression, "rows", toString f.rowsOrDefault⟩
    .textarea placeholder (rows :: f.lengthAttributes)
  | .select => .select f.optionList
  | .checkbox => .checkbox
  | .checkboxGroup => .checkboxGroup f.optionList
  | .radio => .radio f.optionList
  | .date => .date f.dateAttributes
  | .file => .file

end Field

structure FieldBlock where
  name : String
  label : String
  required : Bool
  control : Control
deriving DecidableEq, Inhabited

def Field.block (f : Field) : FieldBlock := ⟨f.name, f.label, f.required, f.control⟩

def FieldBlock.marker (b : FieldBlock) : String := if b.required then " *" else ""

/-- What a field holds before anything is entered. -/
inductive DefaultValue
  | no | emptyList | emptyText | undefined
  | number (x : Binary64)
deriving DecidableEq, Inhabited

def DefaultValue.text : DefaultValue → String
  | no => "false"
  | emptyList => "[]"
  | emptyText => "\"\""
  | undefined => "undefined"
  | number x => x.literal

def Field.defaultValue (f : Field) : DefaultValue :=
  match f.kind with
  | .checkbox => .no
  | .checkboxGroup => .emptyList
  | .number => if f.required then .number (f.min.getD .zero) else .undefined
  | .file => .undefined
  | _ => .emptyText

end FormCompiler
