import FormCompiler.Binary64.Basic
import FormCompiler.Text.Basic

/-! Fields of a form: what kinds there are, what a field can say, and what a new one says before
anyone edits it. -/

namespace FormCompiler

inductive FieldKind
  | text | textarea | select | checkbox | checkboxGroup | radio | date | file | password | number
deriving DecidableEq, Inhabited

structure UnknownKind where
  text : String
deriving DecidableEq, Inhabited

def UnknownKind.message (e : UnknownKind) : String := s!"unknown field type '{e.text}'"

namespace FieldKind

def all : List FieldKind :=
  [text, textarea, select, checkbox, checkboxGroup, radio, date, file, password, number]

def name : FieldKind → String
  | text => "text"
  | textarea => "textarea"
  | select => "select"
  | checkbox => "checkbox"
  | checkboxGroup => "checkbox-group"
  | radio => "radio"
  | date => "date"
  | file => "file"
  | password => "password"
  | number => "number"

def ofName? (name : String) : Option FieldKind := all.find? fun k => k.name == name

/-- Reads a name typed by hand: case and white space around it do not matter. -/
def parse (s : String) : Except UnknownKind FieldKind :=
  let word := Text.trimBlank s.toList
  match all.find? fun k => Text.spells k.name word with
  | some kind => .ok kind
  | none => .error ⟨s⟩

/-- What the names of new fields of the kind begin with. -/
def identifier : FieldKind → String
  | checkboxGroup => "checkboxGroup"
  | kind => kind.name

def isChoice : FieldKind → Bool
  | select | radio | checkboxGroup => true
  | _ => false

/-- Kinds whose fields have a placeholder from the start. -/
def isTextLike : FieldKind → Bool
  | text | textarea => true
  | _ => false

def title (kind : FieldKind) : String :=
  match kind.name.toList with
  | [] => ""
  | c :: cs => String.ofList (c.toUpper :: cs)

end FieldKind

/-- How the content of text and date fields is meant. -/
inductive ValueType
  | text | number | alphanumeric | datetime | password
deriving DecidableEq, Inhabited

namespace ValueType

def all : List ValueType := [text, number, alphanumeric, datetime, password]

def name : ValueType → String
  | text => "text"
  | number => "number"
  | alphanumeric => "alphanumeric"
  | datetime => "datetime"
  | password => "password"

def ofName? (name : String) : Option ValueType := all.find? fun t => t.name == name

end ValueType

structure FieldOption where
  label : String
  value : String
deriving DecidableEq, Inhabited

structure Field where
  id : String
  kind : FieldKind
  label : String
  name : String
  required : Bool := false
  placeholder : Option String := none
  options : Option (List FieldOption) := none
  minLength : Option UInt64 := none
  maxLength : Option UInt64 := none
  min : Option Binary64 := none
  max : Option Binary64 := none
  step : Option Binary64 := none
  rows : Option UInt32 := none
  valueType : Option ValueType := none
  disablePastDates : Bool := false
  disableFutureDates : Bool := false
deriving DecidableEq, Inhabited

def elementId (number : Nat) : String := "element-" ++ toString number

namespace Field

def withDefaults (kind : FieldKind) (number : Nat) : Field where
  id := elementId number
  kind := kind
  label := kind.title ++ " Label"
  name := kind.identifier ++ toString number
  placeholder := if kind.isTextLike then some "Enter text here..." else none
  options :=
    if kind.isChoice then some [⟨"Option 1", "option1"⟩, ⟨"Option 2", "option2"⟩] else none

/-- A field without options has an empty list of them. -/
def optionList (f : Field) : List FieldOption := f.options.getD []

def rowsOrDefault (f : Field) : UInt32 := f.rows.getD 3

def hasValueType (f : Field) (t : ValueType) : Bool := f.valueType == some t

end Field

/-- Names have to stand as bare keys in generated code. -/
def isIdentifier (name : String) : Bool :=
  match name.toList with
  | [] => false
  | c :: cs =>
    (c.isAlpha || c == '_' || c == '$') && cs.all fun c => c.isAlphanum || c == '_' || c == '$'

/-- Hands out field numbers in ascending order. -/
structure IdCounter where
  next : Nat := 1
deriving DecidableEq, Inhabited

namespace IdCounter

def startingAt (next : Nat) : IdCounter := ⟨max next 1⟩

def peek (ids : IdCounter) : Nat := ids.next

def allocate (ids : IdCounter) : Nat × IdCounter := (ids.next, ⟨ids.next + 1⟩)

end IdCounter

/-- The number of an id, read leniently: a plus sign and leading zeros do not matter, and the
number fits 64 bits. -/
def elementNumber? (id : String) : Option Nat := do
  let rest ← "element-".toList.isPrefixOf? id.toList
  let digits := match rest with
    | '+' :: digits => digits
    | digits => digits
  if digits.isEmpty || !digits.all Char.isDigit then none
  else if Text.numeral digits < UInt64.size then some (Text.numeral digits)
  else none

end FormCompiler
