import FormCompiler.Component.Markup
import FormCompiler.Rule.Derive

/-! A rule as an expression of the schema library of the generated code: a head and a chain of
method calls. -/

namespace FormCompiler

inductive SchemaHead
  | string | coercedNumber | boolean | stringArray
  | file (message : Option String)
deriving DecidableEq, Inhabited

structure SchemaCall where
  method : String
  args : List String
deriving DecidableEq, Inhabited

structure SchemaExpr where
  head : SchemaHead
  calls : List SchemaCall
deriving DecidableEq, Inhabited

/-- The argument that carries a message, which is quoted without escapes. -/
def messageObject (message : String) : String := Markup.braced (" message: '" ++ message ++ "' ")

def SchemaHead.text : SchemaHead → String
  | string => "z.string()"
  | coercedNumber => "z.coerce.number()"
  | boolean => "z.boolean()"
  | stringArray => "z.array(z.string())"
  | file none => "z.instanceof(File)"
  | file (some message) => "z.instanceof(File, " ++ messageObject message ++ ")"

def SchemaCall.text (c : SchemaCall) : String :=
  "." ++ c.method ++ "(" ++ ", ".intercalate c.args ++ ")"

def SchemaExpr.text (e : SchemaExpr) : String :=
  e.head.text ++ String.join (e.calls.map SchemaCall.text)

/-- The method of a check and the argument that says what it is checked against. -/
def Check.call : Check → String × List String
  | minLength n => ("min", [toString n])
  | maxLength n => ("max", [toString n])
  | min x => ("min", [x.literal])
  | max x => ("max", [x.literal])
  | pattern p => ("regex", ["/" ++ p.source ++ "/"])
  | mustBeTrue => ("refine", ["val => val === true"])
  | optional => ("optional", [])

def Constraint.call (c : Constraint) : SchemaCall :=
  ⟨c.check.call.1, c.check.call.2 ++ c.message.toList.map messageObject⟩

def Rule.head (r : Rule) : SchemaHead :=
  match r.base with
  | .string => .string
  | .number => .coercedNumber
  | .boolean => .boolean
  | .stringArray => .stringArray
  | .binary => .file r.baseMessage

def Rule.expr (r : Rule) : SchemaExpr := ⟨r.head, r.constraints.map Constraint.call⟩

end FormCompiler
