import FormCompiler.Component.Control

/-! The markup of one field: its label, its control and the place of its message, inside the
wrapper that ties it to the state of the form. -/

namespace FormCompiler.FieldBlock

open Markup

/-- The wrapper of a field. Its attributes end with the function that shows the field. -/
def wrapper (name : String) (shown : Markup) : Markup :=
  tallVoid Widget.formField
    [.line (expression "control" "form.control"), .line (literal "name" name), shown]

def fieldParam : String := braced " field "

def errorClass (b : FieldBlock) : String :=
  "form.formState.errors." ++ b.name ++ " ? \"border-destructive\" : \"\""

def errorAttribute (b : FieldBlock) : String := expression "className" b.errorClass

def labelLeaf (b : FieldBlock) : Markup := .leaf Widget.formLabel [] (b.label ++ b.marker)

def message : Markup := .void Widget.formMessage []

/-- A field shown as an item with a label, some content and the message. -/
def labelled (b : FieldBlock) (attributes : List String) (content : List Markup) : Markup :=
  wrapper b.name (view "render" fieldParam
    [.element Widget.formItem attributes ([b.labelLeaf] ++ content ++ [message])])

def single (b : FieldBlock) (w : Widget) (attributes : List String) : Markup :=
  b.labelled []
    [.element Widget.formControl []
      [.tallVoid w ((attributes ++ [b.errorAttribute]).map .line)]]

def fieldSpread : String := spread "field"

def input (b : FieldBlock) (w : Widget) (placeholder : String) (attributes : List Attribute) :
    Markup :=
  b.single w ([literal "placeholder" placeholder, fieldSpread] ++ attributes.map Attribute.text)

def number (b : FieldBlock) (placeholder : String) (attributes : List Attribute) : Markup :=
  b.single .input ([literal "type" "number", literal "placeholder" placeholder] ++
    attributes.map Attribute.text ++ [fieldSpread])

def textarea (b : FieldBlock) (placeholder : String) (attributes : List Attribute) : Markup :=
  b.single .textarea
    ([literal "placeholder" placeholder] ++ attributes.map Attribute.text ++ [fieldSpread])

def date (b : FieldBlock) (attributes : List Attribute) : Markup :=
  b.single .input ([literal "type" "date", fieldSpread] ++ attributes.map Attribute.text)

def select (b : FieldBlock) (options : List FieldOption) : Markup :=
  b.labelled []
    [.element Widget.select
      [expression "onValueChange" "field.onChange", expression "defaultValue" "field.value",
        expression "value" "field.value"]
      [.element Widget.formControl []
        [.element Widget.selectTrigger [b.errorAttribute]
          [.void Widget.selectValue [literal "placeholder" "Select an option"]]],
        .element Widget.selectContent []
          (options.map fun o => .leaf Widget.selectItem [literal "value" o.value] o.label)]]

def checkbox (b : FieldBlock) : Markup :=
  wrapper b.name (view "render" fieldParam
    [.element Widget.formItem
      [literal "className" "flex flex-row items-start space-x-3 space-y-0 rounded-md p-4"]
      [.element Widget.formControl []
        [.tallVoid Widget.checkbox
          [.line (expression "checked" "field.value"),
            .line (expression "onCheckedChange" "field.onChange")]],
        .element (.html "div") [literal "className" "space-y-1 leading-none"]
          [b.labelLeaf, message]]])

/-- One box of a group. Its value is put into the list of values or taken out of it. -/
def groupBox (b : FieldBlock) (o : FieldOption) : Markup :=
  wrapper b.name <| handler "render" fieldParam
    [group "return"
      [.tallElement Widget.formItem
        [.line (literal "key" o.value),
          .line (literal "className" "flex flex-row items-start space-x-3 space-y-0")]
        [.element Widget.formControl []
          [.tallVoid Widget.checkbox
            [.line (expression "checked" ("field.value?.includes(\"" ++ o.value ++ "\")")),
              handler "onCheckedChange" "checked"
                [.line "return checked",
                  .line ("  ? field.onChange([...field.value, \"" ++ o.value ++ "\"])"),
                  .line "  : field.onChange(",
                  .line "      field.value?.filter(",
                  .line ("        (value) => value !== \"" ++ o.value ++ "\""),
                  .line "      )",
                  .line "    )"]]],
          .element Widget.formLabel [literal "className" "font-normal"] [.line o.label]]]
      ""]

def checkboxGroup (b : FieldBlock) (options : List FieldOption) : Markup :=
  wrapper b.name (view "render" ""
    [.element Widget.formItem []
      [b.labelLeaf,
        .element (.html "div") [literal "className" "space-y-2"] (options.map b.groupBox),
        message]])

def radioItem (o : FieldOption) : Markup :=
  .element Widget.formItem [literal "className" "flex items-center space-x-3 space-y-0"]
    [.element Widget.formControl [] [.void Widget.radioGroupItem [literal "value" o.value]],
      .element Widget.formLabel [literal "className" "font-normal"] [.line o.label]]

def radio (b : FieldBlock) (options : List FieldOption) : Markup :=
  b.labelled [literal "className" "space-y-3"]
    [.element Widget.formControl []
      [.tallElement Widget.radioGroup
        [.line (expression "onValueChange" "field.onChange"),
          .line (expression "defaultValue" "field.value"),
          .line (literal "className" "flex flex-col space-y-1")]
        (options.map radioItem)]]

def file (b : FieldBlock) : Markup :=
  let params := braced (" field: " ++ braced " value, onChange, ...fieldProps " ++ " ")
  wrapper b.name <| handler "render" params
    [.line "const [fileState, setFileState] = useState(null)",
      .blank,
      group "return"
        [.element Widget.formItem []
          [b.labelLeaf,
            .element Widget.formControl []
              [.tallVoid Widget.input
                [.line (literal "type" "file"),
                  handler "onChange" "e"
                    [.line "const file = e.target.files?.[0] || null",
                      .line "onChange(file)",
                      .line "setFileState(file)"],
                  .line (spread "fieldProps"),
                  .line (expression "className"
                    ("`border-dashed $" ++ braced b.errorClass ++ "`"))]],
            .tallVoid Widget.filePreview
              [.line (expression "file" "fileState"),
                handler "onRemove" ""
                  [.line "onChange(null)",
                    .line "setFileState(null)",
                    .line "// Reset the file input",
                    .line ("const fileInput = document.querySelector(`input[name=\"" ++ b.name ++
                      "\"]`)"),
                    .line "if (fileInput) fileInput.value = \"\""]],
            message]]
        ""]

def markup (b : FieldBlock) : Markup :=
  match b.control with
  | .input placeholder attributes => b.input .input placeholder attributes
  | .password placeholder attributes => b.input .passwordInput placeholder attributes
  | .number placeholder attributes => b.number placeholder attributes
  | .textarea placeholder attributes => b.textarea placeholder attributes
  | .select options => b.select options
  | .checkbox => b.checkbox
  | .checkboxGroup options => b.checkboxGroup options
  | .radio options => b.radio options
  | .date attributes => b.date attributes
  | .file => b.file

/-- The text of a field, which stands one step in from the margin. -/
def text (b : FieldBlock) : String := Markup.print [.atDepth 1 [b.markup]]

end FormCompiler.FieldBlock
