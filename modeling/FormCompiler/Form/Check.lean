import FormCompiler.Decimal.Notation
import FormCompiler.Form.Basic

/-! What can be wrong with a form, and all that is wrong with a given one, in the order of its
fields. The first field that has an id or a name owns it; each later one repeats it. -/

namespace FormCompiler

inductive Issue
  | emptyFormName
  | emptyName (id : String)
  | invalidName (id name : String)
  | duplicateId (id : String)
  | duplicateName (name : String)
  | unexpectedOptions (id : String) (kind : FieldKind)
  | duplicateOptionValue (id value : String)
  | lengthBounds (id : String) (min max : UInt64)
  | numericBounds (id : String) (min max : Binary64)
  | zeroRows (id : String)
deriving DecidableEq, Inhabited

def Issue.message : Issue → String
  | emptyFormName => "form name cannot be empty"
  | emptyName id => s!"field '{id}' has an empty name"
  | invalidName id name => s!"field '{id}' name '{name}' is not a valid identifier"
  | duplicateId id => s!"duplicate field id '{id}'"
  | duplicateName name => s!"duplicate field name '{name}'"
  | unexpectedOptions id kind => s!"field '{id}' of type {kind.name} cannot carry options"
  | duplicateOptionValue id value => s!"field '{id}' repeats option value '{value}'"
  | lengthBounds id min max => s!"field '{id}' minLength {min} exceeds maxLength {max}"
  | numericBounds id min max => s!"field '{id}' min {min.sentence} exceeds max {max.sentence}"
  | zeroRows id => s!"field '{id}' must have at least one row"

namespace Field

def nameIssues (f : Field) : List Issue :=
  if f.name = "" then [.emptyName f.id]
  else if isIdentifier f.name then []
  else [.invalidName f.id f.name]

/-- One issue for each option whose value an earlier one has. -/
def repeatedValues (id : String) : List String → List FieldOption → List Issue
  | _, [] => []
  | seen, o :: rest =>
    (if seen.contains o.value then [.duplicateOptionValue id o.value] else []) ++
      repeatedValues id (o.value :: seen) rest

def optionIssues (f : Field) : List Issue :=
  (if !f.kind.isChoice && !f.optionList.isEmpty then [.unexpectedOptions f.id f.kind] else []) ++
    repeatedValues f.id [] f.optionList

/-- The issue of a least value that exceeds the greatest one. -/
def orderIssues {α : Type} [LT α] [DecidableLT α] (issue : α → α → Issue) :
    Option α → Option α → List Issue
  | some min, some max => if max < min then [issue min max] else []
  | _, _ => []

def lengthIssues (f : Field) : List Issue :=
  orderIssues (.lengthBounds f.id) f.minLength f.maxLength

def boundIssues (f : Field) : List Issue := orderIssues (.numericBounds f.id) f.min f.max

def rowIssues (f : Field) : List Issue := if f.rows = some 0 then [.zeroRows f.id] else []

def issues (f : Field) : List Issue :=
  f.nameIssues ++ f.optionIssues ++ f.lengthIssues ++ f.boundIssues ++ f.rowIssues

end Field

namespace Form

/-- The issues of the fields after fields with the given ids and names. Empty names are not
counted as repeated. -/
def fieldIssues : List String → List String → List Field → List Issue
  | _, _, [] => []
  | ids, names, f :: rest =>
    (if ids.contains f.id then [.duplicateId f.id] else []) ++
    (if f.name ≠ "" ∧ names.contains f.name then [.duplicateName f.name] else []) ++
    f.issues ++ fieldIssues (f.id :: ids) (f.name :: names) rest

def check (form : Form) : List Issue :=
  (if Text.allBlank form.name then [.emptyFormName] else []) ++ fieldIssues [] [] form.fields

/-- The names that an earlier field has, once for each field that repeats one. -/
def repeatedNames (form : Form) : List String :=
  form.check.filterMap fun
    | .duplicateName name => some name
    | _ => none

def namesAreUnique (form : Form) : Bool := form.repeatedNames.isEmpty

end Form

end FormCompiler
