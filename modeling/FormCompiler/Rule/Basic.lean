import FormCompiler.Binary64.Basic
import FormCompiler.Rule.Pattern

/-! Validation rules: the shape a value must have, then constraints in the order in which they
are tried. -/

namespace FormCompiler

inductive BaseType
  | string
  /-- Strings and booleans are read as numbers. -/
  | number
  | boolean
  | stringArray
  | binary
deriving DecidableEq, Inhabited

namespace BaseType

def all : List BaseType := [string, number, boolean, stringArray, binary]

def name : BaseType → String
  | string => "string"
  | number => "number"
  | boolean => "boolean"
  | stringArray => "string-array"
  | binary => "binary"

def ofName? (name : String) : Option BaseType := all.find? fun b => b.name == name

end BaseType

inductive Check
  | minLength (length : UInt64)
  | maxLength (length : UInt64)
  | min (bound : Binary64)
  | max (bound : Binary64)
  | pattern (p : Pattern)
  | mustBeTrue
  | optional
deriving DecidableEq, Inhabited

structure Constraint where
  check : Check
  message : Option String := none
deriving DecidableEq, Inhabited

structure Rule where
  base : BaseType
  baseMessage : Option String := none
  constraints : List Constraint := []
deriving DecidableEq, Inhabited

def Rule.isOptional (r : Rule) : Bool := r.constraints.any fun c => c.check == .optional

structure SchemaEntry where
  name : String
  rule : Rule
deriving DecidableEq, Inhabited

/-- The rules of a form in the order of its fields. Where a name comes twice the last rule is
the one found. -/
structure Schema where
  entries : List SchemaEntry
deriving DecidableEq, Inhabited

namespace Schema

def get? (s : Schema) (name : String) : Option Rule :=
  (s.entries.reverse.find? fun e => e.name == name).map SchemaEntry.rule

def names (s : Schema) : List String := s.entries.map SchemaEntry.name

end Schema

end FormCompiler
