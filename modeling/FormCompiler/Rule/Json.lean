import FormCompiler.Json.Record
import FormCompiler.Rule.Basic

/-! Rules and schemas as JSON. A check is an object with its kind among its members, or an array
that begins with the kind. -/

namespace FormCompiler

open Json

namespace Check

/-- What a kind of check is called, without what it is checked against. -/
inductive Kind
  | minLength | maxLength | min | max | pattern | mustBeTrue | optional
deriving DecidableEq

def Kind.all : List Kind := [minLength, maxLength, min, max, pattern, mustBeTrue, optional]

def Kind.name : Kind → String
  | minLength => "min-length"
  | maxLength => "max-length"
  | min => "min"
  | max => "max"
  | pattern => "pattern"
  | mustBeTrue => "must-be-true"
  | optional => "optional"

def Kind.ofName? (name : String) : Option Kind := all.find? fun k => k.name == name

def kind : Check → Kind
  | minLength _ => .minLength
  | maxLength _ => .maxLength
  | min _ => .min
  | max _ => .max
  | pattern _ => .pattern
  | mustBeTrue => .mustBeTrue
  | optional => .optional

def payload : Check → List (String × Json)
  | minLength n | maxLength n => [("value", .ofNat n.toNat)]
  | min x | max x => [("value", .ofBinary64 x)]
  | pattern p => [("pattern", .string p.name)]
  | mustBeTrue | optional => []

def toJson (c : Check) : Json := .object (("kind", .string c.kind.name) :: c.payload)

/-- In a check the value of a pattern's only key may also be an empty object. -/
def readPattern : Json → Except Fault Pattern
  | .object [(name, .object [])] => readChoice Pattern.ofName? (Json.string name)
  | v => readChoice Pattern.ofName? v

def readPayload (content : Json) : Kind → Except Fault Check
  | .minLength => value minLength readUInt64
  | .maxLength => value maxLength readUInt64
  | .min => value min readBinary64
  | .max => value max readBinary64
  | .pattern =>
    readRecord ["pattern"] (fun r => pattern <$> r.required "pattern" readPattern) content
  | .mustBeTrue => nothing mustBeTrue
  | .optional => nothing optional
where
  value {α : Type} (make : α → Check) (read : Json → Except Fault α) : Except Fault Check :=
    readRecord ["value"] (fun r => make <$> r.required "value" read) content
  nothing (check : Check) : Except Fault Check :=
    match content with
    | .array (_ :: _) => .error .wrongLength
    | _ => .ok check

def readKind (v : Json) : Except Fault Kind := do
  match Kind.ofName? (← readString v) with
  | some kind => return kind
  | none => .error .unknownName

def read : Json → Except Fault Check
  | .object members => match members.lookup "kind" with
    | some kind => do readPayload (.object members) (← readKind kind)
    | none => .error (.missing "kind")
  | .array (kind :: rest) => do readPayload (.array rest) (← readKind kind)
  | .array [] => .error (.missing "kind")
  | _ => .error .wrongType

end Check

namespace Constraint

def toJson (c : Constraint) : Json :=
  .object (("check", c.check.toJson) :: optionalMember "message" .string c.message)

def read : Json → Except Fault Constraint :=
  readRecord ["check", "message"] fun r =>
    Constraint.mk
      <$> r.required "check" Check.read
      <*> r.optional "message" none (readOptional readString)

end Constraint

namespace Rule

def toJson (r : Rule) : Json := .object <|
  ("base", .string r.base.name) ::
    (optionalMember "base_message" .string r.baseMessage ++
      [("constraints", .array (r.constraints.map Constraint.toJson))])

def read : Json → Except Fault Rule :=
  readRecord ["base", "base_message", "constraints"] fun r =>
    Rule.mk
      <$> r.required "base" (readChoice BaseType.ofName?)
      <*> r.optional "base_message" none (readOptional readString)
      <*> r.optional "constraints" [] (readList Constraint.read)

end Rule

namespace SchemaEntry

def toJson (e : SchemaEntry) : Json := .object [("name", .string e.name), ("rule", e.rule.toJson)]

def read : Json → Except Fault SchemaEntry :=
  readRecord ["name", "rule"] fun r =>
    SchemaEntry.mk <$> r.required "name" readString <*> r.required "rule" Rule.read

end SchemaEntry

namespace Schema

def toJson (s : Schema) : Json := .object [("entries", .array (s.entries.map SchemaEntry.toJson))]

def read : Json → Except Fault Schema :=
  readRecord ["entries"] fun r => Schema.mk <$> r.required "entries" (readList SchemaEntry.read)

end Schema

end FormCompiler
