import FormCompiler.Json.Source

/-! Records: objects whose members have known names, or arrays of the members in order. A record
with several faults has the one that comes first in what it is read from, so each part is read
with its place. -/

namespace FormCompiler.Json

def Placed (α : Type) : Type := Except (Nat × Fault) α

namespace Placed

def ok {α : Type} (a : α) : Placed α := Except.ok a

def fail {α : Type} (place : Nat) (fault : Fault) : Placed α := Except.error (place, fault)

def of {α : Type} (place : Nat) (x : Except Fault α) : Placed α := x.mapError (place, ·)

def map {α β : Type} (f : α → β) (x : Placed α) : Placed β := Except.map f x

/-- Of two faults the one at the earlier place is kept, the left one if they share a place. -/
def both {α β : Type} (f : Placed (α → β)) (x : Placed α) : Placed β :=
  match f, x with
  | .ok f, .ok a => .ok (f a)
  | .error p, .ok _ => .error p
  | .ok _, .error q => .error q
  | .error p, .error q => .error (if q.1 < p.1 then q else p)

instance : Applicative Placed where
  pure := ok
  map := map
  seq f x := both f (x ())

def result {α : Type} (x : Placed α) : Except Fault α := Except.mapError Prod.snd x

end Placed

inductive Parts (σ : Type) where
  | named (members : List (Except Fault String × σ)) (stop : Option Fault)
  | listed (items : List σ) (stop : Option Fault)

/-- A record about to be read, with the names of its members in order. -/
structure Record (σ : Type) where
  names : List String
  parts : Parts σ

namespace Record

variable {σ : Type} {α : Type}

/-- The first member of a name, and its place counted from the given one. -/
def find? (name : String) : Nat → List (Except Fault String × σ) → Option (Nat × σ)
  | _, [] => none
  | i, (.ok key, v) :: rest => if key = name then some (i, v) else find? name (i + 1) rest
  | i, (.error _, _) :: rest => find? name (i + 1) rest

def part? (r : Record σ) (name : String) : Option (Nat × σ) :=
  match r.parts with
  | .named members _ => find? name 0 members
  | .listed items _ => items[r.names.idxOf name]?.map (r.names.idxOf name, ·)

/-- The place after all parts and after what ends them. -/
def lastPlace (r : Record σ) : Nat :=
  match r.parts with
  | .named members _ => members.length + 1
  | .listed items _ => items.length + 1

/-- The fault of a part that has to be there and is not. -/
def absence (r : Record σ) (name : String) : Fault :=
  match r.parts with
  | .named .. => .missing name
  | .listed .. => .wrongLength

def required (r : Record σ) (name : String) (read : σ → Except Fault α) : Placed α :=
  match r.part? name with
  | some (place, v) => .of place (read v)
  | none => .fail r.lastPlace (r.absence name)

def optional (r : Record σ) (name : String) (fallback : α) (read : σ → Except Fault α) :
    Placed α :=
  match r.part? name with
  | some (place, v) => .of place (read v)
  | none => .ok fallback

/-- The first fault of the members themselves: an unreadable key, a known one that comes again,
or an unknown one whose value cannot be passed over. -/
def membersFault [Source σ] (names : List String) (stop : Option Fault) :
    Nat → List String → List (Except Fault String × σ) → Placed Unit
  | i, _, [] => .of i (accept stop)
  | i, seen, (key, v) :: rest =>
    match key with
    | .error fault => .fail i fault
    | .ok key =>
      if names.contains key then
        if Source.checksRepeats σ && seen.contains key then .fail i (.repeated key)
        else membersFault names stop (i + 1) (key :: seen) rest
      else match Source.skip v with
        | .error fault => .fail i fault
        | .ok () => membersFault names stop (i + 1) seen rest

/-- The first fault that lies in no part. -/
def frameFault [Source σ] (r : Record σ) : Placed Unit :=
  match r.parts with
  | .named members stop => membersFault r.names stop 0 [] members
  | .listed items stop =>
    if r.names.length < items.length then .fail r.names.length (Source.excess σ)
    else .of items.length (accept stop)

end Record

/-- Reads a record whose members have the given names. -/
def readRecord {σ α : Type} [Source σ] (names : List String) (build : Record σ → Placed α)
    (v : σ) : Except Fault α := do
  let parts ← match ← Source.shape v with
    | .object members stop => Except.ok (Parts.named members stop)
    | .array items stop => .ok (.listed items stop)
    | _ => .error .wrongType
  let r : Record σ := ⟨names, parts⟩
  (r.frameFault *> build r).result

/-- A member that is written only when it is set. -/
def optionalMember {α : Type} (key : String) (write : α → Json) :
    Option α → List (String × Json)
  | none => []
  | some a => [(key, write a)]

def flagMember (key : String) (flag : Bool) : List (String × Json) :=
  if flag then [(key, .bool true)] else []

end FormCompiler.Json
