import FormCompiler.Editor.State

/-! Edits as data, and runs of them. An edit that fails leaves the state as it was. -/

namespace FormCompiler

inductive Edit
  | addField (kind : FieldKind)
  | updateField (f : Field)
  | removeField (id : String)
  | moveField (source target : Nat)
  | setLayout (layout : Layout)
  | setName (name : String)
  | addOption (id : String) (option : FieldOption)
  | removeOption (id : String) (index : Nat)
  | clear
  | importDocument (d : Exchange.Document)
deriving DecidableEq

namespace EditorState

def apply (s : EditorState) : Edit → Except EditError EditorState
  | .addField kind => .ok (s.addField kind).2
  | .updateField f => s.updateField f
  | .removeField id => s.removeField id
  | .moveField source target => s.moveField source target
  | .setLayout layout => .ok (s.setLayout layout)
  | .setName name => s.setName name
  | .addOption id option => s.addOption id option
  | .removeOption id index => s.removeOption id index
  | .clear => .ok s.clear
  | .importDocument d => .ok (s.importDocument d)

/-- The state after an edit, whether or not it succeeds. -/
def step (s : EditorState) (e : Edit) : EditorState :=
  match s.apply e with
  | .ok next => next
  | .error _ => s

def run (s : EditorState) (edits : List Edit) : EditorState := edits.foldl step s

end EditorState

end FormCompiler
