import FormCompiler.Decimal.Notation
import FormCompiler.Json.Basic
import FormCompiler.Rule.Derive
import FormCompiler.Text.Basic
import FormCompiler.Text.Numeric

/-! Checking values against the rules of a form. A value is first brought to the shape of its
rule; then the first constraint that it fails decides. -/

namespace FormCompiler

inductive Refusal
  | typeMismatch | minLength | maxLength | min | max | patternMismatch | mustBeTrue
deriving DecidableEq, Inhabited

def Refusal.code : Refusal → String
  | typeMismatch => "type_mismatch"
  | minLength => "min_length"
  | maxLength => "max_length"
  | min => "min"
  | max => "max"
  | patternMismatch => "pattern_mismatch"
  | mustBeTrue => "must_be_true"

inductive Typed
  | text (s : String)
  | number (x : Binary64)
  | flag (b : Bool)
  | list (length : Nat)
  | binary
deriving DecidableEq

/-- Booleans count as one and zero, strings as the number they write, blank ones as zero. What is
not a number does not count as one. -/
def coerceNumber (v : Json) : Option Binary64 :=
  let number := match v with
    | .number n => some n.toBinary64
    | .bool b => some (if b then .one else .zero)
    | .string s =>
      let cs := Text.trimBlank s.toList
      if cs = [] then some .zero else Text.number? cs
    | _ => none
  number.filter fun x => !x.isNaN

namespace BaseType

def coerce : BaseType → Json → Option Typed
  | string, .string s => some (.text s)
  | number, v => (coerceNumber v).map .number
  | boolean, .bool b => some (.flag b)
  | stringArray, .array items => if items.all Json.isString then some (.list items.length) else none
  | binary, .object members =>
    if (members.lookup "name").any Json.isString then some .binary else none
  | _, _ => none

def mismatchMessage : BaseType → String
  | string => "Expected string"
  | number => "Expected number"
  | boolean => "Expected boolean"
  | stringArray => "Expected array of strings"
  | binary => "Input not instance of File"

end BaseType

namespace Check

/-- Why a value fails the check, with the message of a constraint that has none. A check passes
every value that is not of its shape. -/
def refusal? : Check → Typed → Option (Refusal × String)
  | minLength n, .text s =>
    if Text.length16 s < n.toNat then
      some (.minLength, s!"String must contain at least {n} character(s)")
    else none
  | minLength n, .list length =>
    if length < n.toNat then some (.minLength, s!"Array must contain at least {n} element(s)")
    else none
  | maxLength n, .text s =>
    if n.toNat < Text.length16 s then
      some (.maxLength, s!"String must contain at most {n} character(s)")
    else none
  | maxLength n, .list length =>
    if n.toNat < length then some (.maxLength, s!"Array must contain at most {n} element(s)")
    else none
  | min bound, .number x =>
    if x < bound then
      some (.min, s!"Number must be greater than or equal to {bound.sentence}")
    else none
  | max bound, .number x =>
    if bound < x then some (.max, s!"Number must be less than or equal to {bound.sentence}")
    else none
  | pattern p, .text s => if p.accepts .unicode s then none else some (.patternMismatch, p.message)
  | mustBeTrue, .flag b => if b then none else some (.mustBeTrue, requiredMessage)
  | _, _ => none

end Check

def Constraint.refusal? (c : Constraint) (v : Typed) : Option (Refusal × String) :=
  (c.check.refusal? v).map fun (why, message) => (why, c.message.getD message)

def Rule.refusal? (r : Rule) (v : Json) : Option (Refusal × String) :=
  match r.base.coerce v with
  | none => some (.typeMismatch, r.baseMessage.getD r.base.mismatchMessage)
  | some typed => r.constraints.findSome? fun c => c.refusal? typed

structure ValueError where
  field : String
  refusal : Refusal
  message : String
deriving DecidableEq, Inhabited

def ValueError.path (e : ValueError) : String := "/" ++ e.field

structure Verdict where
  errors : List ValueError
  missingRequired : List String
  unknownFields : List String
deriving DecidableEq, Inhabited

namespace Verdict

def valid (v : Verdict) : Bool :=
  v.errors.isEmpty && v.missingRequired.isEmpty && v.unknownFields.isEmpty

def errorFor? (v : Verdict) (field : String) : Option ValueError :=
  v.errors.find? fun e => e.field == field

end Verdict

/-- What an object of values has for a name; null stands for nothing. -/
def presentValue (values : Json) (name : String) : Option Json :=
  (values.member? name).filter fun v => v ≠ .null

namespace SchemaEntry

def error? (values : Json) (e : SchemaEntry) : Option ValueError := do
  let v ← presentValue values e.name
  let (refusal, message) ← e.rule.refusal? v
  return ⟨e.name, refusal, message⟩

def isMissing (values : Json) (e : SchemaEntry) : Bool :=
  (presentValue values e.name).isNone && !e.rule.isOptional

end SchemaEntry

/-- Checks an object of values by field name. Anything else counts as an empty object. -/
def Schema.validate (s : Schema) (values : Json) : Verdict where
  errors := s.entries.filterMap (SchemaEntry.error? values)
  missingRequired := (s.entries.filter (SchemaEntry.isMissing values)).map SchemaEntry.name
  unknownFields := values.keys.filter fun key => !s.names.contains key

end FormCompiler
