import FormCompiler.Field.Basic

/-! The UI components that a generated form component uses, the groups in which they are
imported, and the import lines that a list of fields needs. -/

namespace FormCompiler

inductive Widget
  | button | input | passwordInput | textarea
  | select | selectContent | selectItem | selectTrigger | selectValue
  | checkbox | radioGroup | radioGroupItem | label
  | form | formField | formItem | formLabel | formControl | formDescription | formMessage
  | filePreview | eye | eyeOff | cross
deriving DecidableEq, Inhabited

def Widget.name : Widget → String
  | button => "Button"
  | input => "Input"
  | passwordInput => "PasswordInput"
  | textarea => "Textarea"
  | select => "Select"
  | selectContent => "SelectContent"
  | selectItem => "SelectItem"
  | selectTrigger => "SelectTrigger"
  | selectValue => "SelectValue"
  | checkbox => "Checkbox"
  | radioGroup => "RadioGroup"
  | radioGroupItem => "RadioGroupItem"
  | label => "Label"
  | form => "Form"
  | formField => "FormField"
  | formItem => "FormItem"
  | formLabel => "FormLabel"
  | formControl => "FormControl"
  | formDescription => "FormDescription"
  | formMessage => "FormMessage"
  | filePreview => "FilePreview"
  | eye => "Eye"
  | eyeOff => "EyeOff"
  | cross => "X"

/-- An import of several names, with its source in quotation marks. -/
def importLine (names : List String) (quotedSource : String) : String :=
  "import \x7b " ++ ", ".intercalate names ++ " \x7d from " ++ quotedSource

def importWidgets (widgets : List Widget) (quotedSource : String) : String :=
  importLine (widgets.map Widget.name) quotedSource

def baseImports : List String :=
  [importWidgets [.button] "\"@/components/ui/button\"",
    importLine ["useForm"] "\"react-hook-form\"",
    importLine ["zodResolver"] "\"@hookform/resolvers/zod\"",
    "import * as z from \"zod\"",
    importLine ["useState", "useEffect"] "\"react\""]

/-- A group of components that is imported by one line. -/
inductive Primitive
  | input | passwordInput | textarea | select | checkbox | radioGroup | label | formWrapper
deriving DecidableEq, Inhabited

namespace Primitive

def widgets : Primitive → List Widget
  | input => [.input]
  | passwordInput => [.passwordInput]
  | textarea => [.textarea]
  | select => [.select, .selectContent, .selectItem, .selectTrigger, .selectValue]
  | checkbox => [.checkbox]
  | radioGroup => [.radioGroup, .radioGroupItem]
  | label => [.label]
  | formWrapper =>
    [.form, .formField, .formItem, .formLabel, .formControl, .formDescription, .formMessage]

def source : Primitive → String
  | input => "\"@/components/ui/input\""
  | passwordInput => "\"@/components/password-input\""
  | textarea => "\"@/components/ui/textarea\""
  | select => "\"@/components/ui/select\""
  | checkbox => "\"@/components/ui/checkbox\""
  | radioGroup => "\"@/components/ui/radio-group\""
  | label => "\"@/components/ui/label\""
  | formWrapper => "\"@/components/ui/form\""

def line (p : Primitive) : String := importWidgets p.widgets p.source

end Primitive

def FieldKind.primitive : FieldKind → Primitive
  | .text | .date | .file | .number => .input
  | .password => .passwordInput
  | .textarea => .textarea
  | .select => .select
  | .checkbox | .checkboxGroup => .checkbox
  | .radio => .radioGroup

/-- Groups in the order of their first use, each once. -/
structure ImportSet where
  primitives : List Primitive := []
deriving DecidableEq, Inhabited

namespace ImportSet

def contains (s : ImportSet) (p : Primitive) : Bool := s.primitives.contains p

/-- Adds a group, and tells whether it was new. -/
def insert (s : ImportSet) (p : Primitive) : Bool × ImportSet :=
  if s.contains p then (false, s) else (true, ⟨s.primitives ++ [p]⟩)

/-- Adds the control of a field, then what every field uses. -/
def addField (s : ImportSet) (kind : FieldKind) : ImportSet :=
  [kind.primitive, .label, .formWrapper].foldl (fun s p => (s.insert p).2) s

def ofKinds (kinds : List FieldKind) : ImportSet := kinds.foldl addField {}

def lines (s : ImportSet) : List String := baseImports ++ s.primitives.map Primitive.line

end ImportSet

end FormCompiler
