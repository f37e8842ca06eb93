import FormCompiler.Decimal.Notation
import FormCompiler.Form.Basic
import FormCompiler.Rule.Basic

/-! The rule that follows from what a field says. -/

namespace FormCompiler

def requiredMessage : String := "Required"

def passwordLength : UInt64 := 8

/-- A length of zero counts as unset. -/
def setLength (length : Option UInt64) : Option UInt64 := length.filter (0 < ·)

def ValueType.pattern? : ValueType → Option Pattern
  | .number => some .digitsOnly
  | .alphanumeric => some .alphanumeric
  | _ => none

namespace Constraint

def atLeast (length : UInt64) : Constraint :=
  ⟨.minLength length, some s!"Must be at least {length} characters"⟩

def atMost (length : UInt64) : Constraint :=
  ⟨.maxLength length, some s!"Must be at most {length} characters"⟩

def matching (p : Pattern) : Constraint := ⟨.pattern p, some p.message⟩

def upTo (bound : Binary64) : Constraint :=
  ⟨.max bound, some s!"Value must be less than or equal to {bound.literal}"⟩

def passwordSize : Constraint :=
  ⟨.minLength passwordLength, some s!"Password must be at least {passwordLength} characters"⟩

def optional : Constraint := ⟨.optional, none⟩

/-- A required value meets the check, one that is not may be absent. -/
def presence (required : Bool) (check : Check) : Constraint :=
  if required then ⟨check, some requiredMessage⟩ else optional

def lengths (min max : Option UInt64) : List Constraint :=
  min.toList.map atLeast ++ max.toList.map atMost

end Constraint

open Constraint in
def Field.rule (f : Field) : Rule :=
  match f.kind with
  | .number =>
    { base := .number
      constraints := presence f.required (.min (f.min.getD .zero)) :: f.max.toList.map upTo }
  | .checkboxGroup =>
    { base := .stringArray
      constraints := if f.required then [presence true (.minLength 1)] else [] }
  | .checkbox =>
    { base := .boolean
      constraints := if f.required then [presence true .mustBeTrue] else [] }
  | .text | .textarea =>
    { base := .string
      constraints :=
        (f.valueType.bind ValueType.pattern?).toList.map matching ++
          lengths (setLength f.minLength) (setLength f.maxLength) ++
          [presence f.required (.minLength 1)] }
  | .password =>
    { base := .string
      constraints :=
        passwordSize ::
          lengths ((setLength f.minLength).filter (passwordLength < ·)) (setLength f.maxLength) ++
          [presence f.required (.minLength 1)] }
  | .file =>
    if f.required then { base := .binary, baseMessage := some requiredMessage }
    else { base := .binary, constraints := [optional] }
  | .date | .select | .radio =>
    { base := .string, constraints := [presence f.required (.minLength 1)] }

def Form.schema (form : Form) : Schema := ⟨form.fields.map fun f => ⟨f.name, f.rule⟩⟩

end FormCompiler
