import FormCompiler.Exchange.Import
import FormCompiler.Exchange.Json
import FormCompiler.Form.Check

/-! A form that is being edited. Each operation gives the next state or says why there is none, so
earlier states stay as they were. -/

namespace FormCompiler

inductive EditError
  | unknownField (id : String)
  | moveOutOfRange (source target count : Nat)
  | unknownOption (id : String) (index : Nat)
  | emptyOption
  /-- The edit would break what forms have to keep. -/
  | definition (issue : Issue)
deriving DecidableEq, Inhabited

def EditError.message : EditError → String
  | unknownField id => s!"no field with id '{id}'"
  | moveOutOfRange source target count =>
    s!"cannot move field from {source} to {target} in a form of {count} fields"
  | unknownOption id index => s!"option {index} does not exist on field '{id}'"
  | emptyOption => "option label and value must both be non-empty"
  | definition issue => issue.message

structure EditorState where
  form : Form := {}
  ids : IdCounter := {}
deriving DecidableEq, Inhabited

namespace EditorState

/-- Takes up a form. Its new fields are numbered after the highest number in its ids. -/
def ofForm (form : Form) : EditorState where
  form := form
  ids := .startingAt ((form.fields.filterMap fun f => elementNumber? f.id).foldl max 0 + 1)

def withFields (s : EditorState) (fields : List Field) : EditorState :=
  { s with form := { s.form with fields := fields } }

def isTaken (form : Form) (kind : FieldKind) (number : Nat) : Bool :=
  let f := Field.withDefaults kind number
  form.fields.any fun g => g.id == f.id || g.name == f.name

/-- The first number that is free, tried from the given one on. -/
def freeNumber (form : Form) (kind : FieldKind) : Nat → Nat → Nat
  | 0, number => number
  | tries + 1, number =>
    if isTaken form kind number then freeNumber form kind tries (number + 1) else number

/-- The number of the next new field. A field of the form stands in the way of two numbers at
most, by its id and by its name. -/
def nextNumber (s : EditorState) (kind : FieldKind) : Nat :=
  freeNumber s.form kind (2 * s.form.fields.length) s.ids.peek

def addField (s : EditorState) (kind : FieldKind) : String × EditorState :=
  let number := s.nextNumber kind
  let f := Field.withDefaults kind number
  (f.id, { form := { s.form with fields := s.form.fields ++ [f] }, ids := ⟨number + 1⟩ })

def updateField (s : EditorState) (f : Field) : Except EditError EditorState :=
  match s.form.position? f.id with
  | none => .error (.unknownField f.id)
  | some index => match f.issues with
    | issue :: _ => .error (.definition issue)
    | [] =>
      if s.form.fields.any fun g => g.id != f.id && g.name == f.name then
        .error (.definition (.duplicateName f.name))
      else .ok (s.withFields (s.form.fields.set index f))

def removeField (s : EditorState) (id : String) : Except EditError EditorState :=
  match s.form.position? id with
  | none => .error (.unknownField id)
  | some index => .ok (s.withFields (s.form.fields.eraseIdx index))

/-- Moves the field at one index so that it ends up at another. -/
def moveField (s : EditorState) (source target : Nat) : Except EditError EditorState :=
  let fields := s.form.fields
  match fields[source]? with
  | some f =>
    if target < fields.length then
      .ok (s.withFields ((fields.eraseIdx source).insertIdx target f))
    else .error (.moveOutOfRange source target fields.length)
  | none => .error (.moveOutOfRange source target fields.length)

def setLayout (s : EditorState) (layout : Layout) : EditorState :=
  { s with form := { s.form with layout := layout } }

def setName (s : EditorState) (name : String) : Except EditError EditorState :=
  if Text.allBlank name then .error (.definition .emptyFormName)
  else .ok { s with form := { s.form with name := name } }

def addOption (s : EditorState) (id : String) (option : FieldOption) :
    Except EditError EditorState :=
  if option.label = "" ∨ option.value = "" then .error .emptyOption
  else match s.form.field? id with
    | none => .error (.unknownField id)
    | some f => s.updateField { f with options := some (f.optionList ++ [option]) }

def removeOption (s : EditorState) (id : String) (index : Nat) : Except EditError EditorState :=
  match s.form.field? id with
  | none => .error (.unknownField id)
  | some f =>
    if index < f.optionList.length then
      s.updateField { f with options := some (f.optionList.eraseIdx index) }
    else .error (.unknownOption id index)

/-- Drops all fields; their numbers stay used. -/
def clear (s : EditorState) : EditorState := s.withFields []

/-- Puts the fields of a document in place of those of the form. -/
def importDocument (s : EditorState) (d : Exchange.Document) : EditorState :=
  let imported := d.toImported
  { form := imported.applyTo s.form, ids := imported.nextId }

def importText (s : EditorState) (text : String) : Except Exchange.ImportError EditorState :=
  (Exchange.Document.parse text).map s.importDocument

end EditorState

end FormCompiler
