import FormCompiler.Component.FieldMarkup
import FormCompiler.Component.Plan

/-! The source of a generated component. -/

namespace FormCompiler

open Markup

/-- A declaration with a line of its own around it, or the line alone. -/
def Support.orBlank (present : Bool) (s : Support) : List Markup :=
  if present then s.markup else [.blank]

namespace Plan

/-- The blocks of fields with a line between them. -/
def spaced (blocks : List FieldBlock) : List Markup :=
  (blocks.map FieldBlock.markup).intersperse .blank

/-- The depth of the blocks is their own. -/
def fieldMarkup (p : Plan) : Markup := .atDepth 1 (spaced p.fields)

def schemaMarkup (p : Plan) : Markup :=
  call "const formSchema = z.object"
    (p.schema.map fun e => .line (e.name ++ ": " ++ e.expr.text ++ ","))

def stateMarkup (p : Plan) : Markup :=
  call "const form = useForm<FormValues>"
    [.line "resolver: zodResolver(formSchema),",
      block "defaultValues:"
        (p.defaults.map fun e => .line (e.name ++ ": " ++ e.value.text ++ ",")) ","]

def bodyMarkup (p : Plan) : Markup :=
  group "return"
    [.element (.html "div") [literal "className" "space-y-6"]
      [.leaf (.html "h2") [literal "className" "text-2xl font-bold"] p.title,
        .blank,
        .element Widget.form [spread "form"]
          [.element (.html "form")
            [expression "onSubmit" "form.handleSubmit(onSubmit)", literal "className" "space-y-6"]
            [.element (.html "div") [literal "className" p.containerClass] [p.fieldMarkup],
              .blank,
              .element (.html "div") [literal "className" "pt-4"]
                [.leaf Widget.button [literal "type" "submit"] "Submit"]]]]]
    ""

def componentMarkup (p : Plan) : Markup :=
  block ("export default function " ++ p.componentName ++ "()")
    [p.stateMarkup,
      .blank,
      block "function onSubmit(data: FormValues)"
        [.line "// Handle form submission", .line "console.log(data)"] "",
      .blank,
      p.bodyMarkup]
    ""

def markup (p : Plan) : List Markup :=
  p.imports.lines.map .line ++
    Support.passwordInput.orBlank p.passwordSupport ++
    Support.filePreview.orBlank p.filePreviewSupport ++
    [p.schemaMarkup,
      .blank,
      .line "type FormValues = z.infer<typeof formSchema>",
      .blank,
      p.componentMarkup]

def source (p : Plan) : String := Markup.print p.markup ++ "\n"

end Plan

/-- A form without fields has no component. -/
inductive Emission
  | empty
  | source (text : String)
deriving DecidableEq, Inhabited

namespace Emission

def source? : Emission → Option String
  | empty => none
  | source text => some text

def display : Emission → String
  | empty => "Add elements to generate code"
  | source text => text

end Emission

def Form.emit (form : Form) : Emission :=
  if form.fields.isEmpty then .empty else .source form.plan.source

end FormCompiler
