import FormCompiler.Json.Basic

/-! What a text holds up to the first place where it cannot be read on. A part that nobody asks
for is held to fewer rules than one that is taken: numbers may be too large there and escapes may
stand for half a character, so a fault can come in a strict and in a lax form. -/

namespace FormCompiler.Json

/-- What can be wrong with a text, or with a value that should have had another shape. -/
inductive Fault
  | truncated
  | malformed
  | missing (member : String)
  | repeated (member : String)
  | unknownName
  | wrongType
  | outOfRange
  | wrongLength
deriving DecidableEq, Inhabited

def accept : Option Fault → Except Fault Unit
  | none => .ok ()
  | some fault => .error fault

/-- Why an object ends before its brace. The third fault is that of a reader who expects a
single member. -/
structure Stop where
  strict : Fault
  lax : Fault
  single : Fault
deriving DecidableEq, Inhabited

inductive Tree
  | null
  | bool (b : Bool)
  | number (n : Except Fault Number)
  | string (s : Except Fault String)
  | array (tooDeep : Bool) (items : List Tree) (stop : Option Fault)
  | object (tooDeep : Bool) (members : List (Except Fault String × Tree)) (stop : Option Stop)
  /-- No value can be read here. The character found is absent where the text ends. -/
  | broken (found : Option Char) (strict lax : Fault)
deriving Inhabited

namespace Tree

mutual

/-- The value, with the first fault in the order of the text. -/
def value : Tree → Except Fault Json
  | null => .ok .null
  | bool b => .ok (.bool b)
  | number n => n.map .number
  | string s => s.map .string
  | array tooDeep items stop => do
    if tooDeep then .error .malformed
    let values ← itemValues items
    accept stop
    return .array values
  | object tooDeep members stop => do
    if tooDeep then .error .malformed
    let values ← memberValues members
    accept (stop.map Stop.strict)
    return .object (values.foldl (fun ms m => insertMember m.1 m.2 ms) [])
  | broken _ strict _ => .error strict

def itemValues : List Tree → Except Fault (List Json)
  | [] => .ok []
  | item :: items => do return (← value item) :: (← itemValues items)

def memberValues : List (Except Fault String × Tree) → Except Fault (List (String × Json))
  | [] => .ok []
  | (key, item) :: members => do
    let key ← key
    let item ← value item
    return (key, item) :: (← memberValues members)

end

mutual

def skip : Tree → Except Fault Unit
  | null | bool _ | number _ | string _ => .ok ()
  | array _ items stop => do
    skipItems items
    accept stop
  | object _ members stop => do
    skipMembers members
    accept (stop.map Stop.lax)
  | broken _ _ lax => .error lax

def skipItems : List Tree → Except Fault Unit
  | [] => .ok ()
  | item :: items => do
    skip item
    skipItems items

def skipMembers : List (Except Fault String × Tree) → Except Fault Unit
  | [] => .ok ()
  | (_, item) :: members => do
    skip item
    skipMembers members

end

end Tree

end FormCompiler.Json
