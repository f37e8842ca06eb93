import FormCompiler.Proofs.EditorIds
import FormCompiler.Proofs.ExchangeSettling
import FormCompiler.Proofs.FieldIssues

/-! What an import can leave wrong. It reads a document without checking it, and then some issues are
there and others never are, whatever the document says; which ones can be told from its entries. -/

namespace FormCompiler

namespace Exchange

theorem Entry.toField_bounded (e : Entry) (position : Nat) : (e.toField position).Bounded := by
  constructor <;> simp [toField]

end Exchange

open Exchange

namespace EditorState

variable (s : EditorState) (d : Document)

end EditorState

end FormCompiler
