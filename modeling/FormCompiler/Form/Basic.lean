import FormCompiler.Field.Basic

/-! Forms: a name, a layout, and fields in the order in which they are shown. -/

namespace FormCompiler

inductive Layout
  | oneColumn | twoColumns
deriving DecidableEq, Inhabited

namespace Layout

def all : List Layout := [oneColumn, twoColumns]

def name : Layout → String
  | oneColumn => "one-column"
  | twoColumns => "two-columns"

def ofName? (name : String) : Option Layout := all.find? fun l => l.name == name

end Layout

structure Form where
  name : String := "My Form"
  layout : Layout := .oneColumn
  fields : List Field := []
deriving DecidableEq, Inhabited

namespace Form

def field? (form : Form) (id : String) : Option Field := form.fields.find? fun f => f.id == id

def position? (form : Form) (id : String) : Option Nat := form.fields.findIdx? fun f => f.id == id

def hasName (form : Form) (name : String) : Bool := form.fields.any fun f => f.name == name

def hasKind (form : Form) (kind : FieldKind) : Bool := form.fields.any fun f => f.kind == kind

end Form

end FormCompiler
