import FormCompiler.Json.Tree.Basic

/-! What values of known shape are read from: a text up to its first fault, or a value that has
been read before. The two differ in a few faults only; what is read without one is the same. -/

namespace FormCompiler.Json

/-- The outermost part of what is about to be taken. -/
inductive Shape (σ : Type) where
  | null
  | bool (b : Bool)
  | number (n : Number)
  | string (s : String)
  | array (items : List σ) (stop : Option Fault)
  | object (members : List (Except Fault String × σ)) (stop : Option Fault)

class Source (σ : Type) where
  shape : σ → Except Fault (Shape σ)
  value : σ → Except Fault Json
  skip : σ → Except Fault Unit
  isNull : σ → Except Fault Bool
  /-- The name of a choice among names, and the fault of what is written after the name. -/
  choice : σ → Except Fault (String × Option Fault)
  /-- The fault of a record that is written as an array with too many items. -/
  excess : Fault
  /-- Whether a member that is written twice is a fault. -/
  checksRepeats : Bool

/-- A choice is a string, or an object whose only key is the name and whose only value is null. -/
def choiceOf : Json → Except Fault (String × Option Fault)
  | string s => .ok (s, none)
  | object [(name, null)] => .ok (name, none)
  | object [(name, _)] => .ok (name, some .wrongType)
  | object _ => .error .outOfRange
  | _ => .error .wrongType

instance : Source Json where
  shape
    | null => .ok .null
    | bool b => .ok (.bool b)
    | number n => .ok (.number n)
    | string s => .ok (.string s)
    | array items => .ok (.array items none)
    | object members => .ok (.object (members.map fun m => (.ok m.1, m.2)) none)
  value := .ok
  skip _ := .ok ()
  isNull v := .ok (v = null)
  choice := choiceOf
  excess := .wrongLength
  checksRepeats := false

namespace Tree

def shape : Tree → Except Fault (Shape Tree)
  | null => .ok .null
  | bool b => .ok (.bool b)
  | number n => n.map .number
  | string s => s.map .string
  | array _ items stop => .ok (.array items stop)
  | object _ members stop => .ok (.object members (stop.map Stop.strict))
  | broken _ strict _ => .error strict

/-- A text that begins as `null` does has to be it. -/
def isNull : Tree → Except Fault Bool
  | null => .ok true
  | broken (some 'n') strict _ => .error strict
  | _ => .ok false

def nullFault : Tree → Option Fault
  | null => none
  | broken _ strict _ => some strict
  | number (.error fault) | string (.error fault) => some fault
  | _ => some .wrongType

/-- In a text only a string or an object can begin a choice, and the object ends after one
member. -/
def choice : Tree → Except Fault (String × Option Fault)
  | string s => s.map (·, none)
  | object _ ((key, item) :: rest) stop => do
    let ending := if rest.isEmpty then stop.map Stop.single else some .malformed
    return (← key, nullFault item <|> ending)
  | object _ [] stop => .error ((stop.map Stop.single).getD .malformed)
  | broken none strict _ | broken (some '"') strict _ => .error strict
  | _ => .error .malformed

end Tree

instance : Source Tree where
  shape := Tree.shape
  value := Tree.value
  skip := Tree.skip
  isNull := Tree.isNull
  choice := Tree.choice
  excess := .malformed
  checksRepeats := true

/-! ## Values of one shape -/

section

variable {σ : Type} [Source σ] {α : Type}

def readString (v : σ) : Except Fault String := do
  match ← Source.shape v with
  | .string s => return s
  | _ => .error .wrongType

def readBool (v : σ) : Except Fault Bool := do
  match ← Source.shape v with
  | .bool b => return b
  | _ => .error .wrongType

def readNatBelow (limit : Nat) (v : σ) : Except Fault Nat := do
  match ← Source.shape v with
  | .number (.int n) => if 0 ≤ n ∧ n < limit then return n.toNat else .error .outOfRange
  | _ => .error .wrongType

def readUInt64 (v : σ) : Except Fault UInt64 := UInt64.ofNat <$> readNatBelow UInt64.size v

def readUInt32 (v : σ) : Except Fault UInt32 := UInt32.ofNat <$> readNatBelow UInt32.size v

def readBinary64 (v : σ) : Except Fault Binary64 := do
  match ← Source.shape v with
  | .number n => return n.toBinary64
  | _ => .error .wrongType

def readChoice (ofName? : String → Option α) (v : σ) : Except Fault α := do
  let (name, fault) ← Source.choice v
  match ofName? name with
  | none => .error .unknownName
  | some a => do
    accept fault
    return a

def readOptional (read : σ → Except Fault α) (v : σ) : Except Fault (Option α) := do
  if ← Source.isNull v then return none else some <$> read v

def readList (read : σ → Except Fault α) (v : σ) : Except Fault (List α) := do
  match ← Source.shape v with
  | .array items stop => do
    let values ← items.mapM read
    accept stop
    return values
  | _ => .error .wrongType

/-- Takes any JSON, and the fallback when the value has another shape. -/
def readLenient (read : Json → Except Fault α) (fallback : α) (v : σ) : Except Fault α := do
  match read (← Source.value v) with
  | .ok a => return a
  | .error _ => return fallback

end

end FormCompiler.Json
