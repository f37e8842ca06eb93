import FormCompiler.Component.Control
import FormCompiler.Component.SchemaExpr
import FormCompiler.Component.Support

/-! All that decides what a generated component means, before any of it is printed. -/

namespace FormCompiler

def Layout.containerClass : Layout → String
  | .oneColumn => "space-y-6"
  | .twoColumns => "grid grid-cols-1 md:grid-cols-2 gap-6"

structure ExprEntry where
  name : String
  expr : SchemaExpr
deriving DecidableEq, Inhabited

structure DefaultEntry where
  name : String
  value : DefaultValue
deriving DecidableEq, Inhabited

structure Plan where
  componentName : String
  title : String
  imports : ImportSet
  passwordSupport : Bool
  filePreviewSupport : Bool
  schema : List ExprEntry
  fields : List FieldBlock
  defaults : List DefaultEntry
  containerClass : String
deriving DecidableEq, Inhabited

def componentName (formName : String) : String := Text.removeBlank formName

def Form.plan (form : Form) : Plan :=
  let imports := ImportSet.ofKinds (form.fields.map Field.kind)
  { componentName := FormCompiler.componentName form.name
    title := form.name
    imports := imports
    passwordSupport := imports.contains .passwordInput
    filePreviewSupport := form.hasKind .file
    schema := form.fields.map fun f => ⟨f.name, f.rule.expr⟩
    fields := form.fields.map Field.block
    defaults := form.fields.map fun f => ⟨f.name, f.defaultValue⟩
    containerClass := form.layout.containerClass }

def Plan.supports (p : Plan) : List Support :=
  (if p.passwordSupport then [.passwordInput] else []) ++
    (if p.filePreviewSupport then [.filePreview] else [])

/-- The UI components that the printed plan binds, by an import or a declaration. -/
def Plan.bound (p : Plan) : List Widget :=
  [.button] ++ p.imports.primitives.flatMap Primitive.widgets ++ p.supports.flatMap Support.bound

end FormCompiler
