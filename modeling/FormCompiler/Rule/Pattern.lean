import FormCompiler.Text.Basic

/-! Character patterns: classes of characters of which a text has to consist, at least one. What
the two escapes of a class stand for differs between readers of the same regular expression. -/

namespace FormCompiler

inductive ClassItem
  | digit
  | blank
  | range (first last : Char)
deriving DecidableEq

/-- The reading of the escapes for digits and white space. -/
structure EscapeReading where
  digit : Char → Bool
  blank : Char → Bool

def EscapeReading.unicode : EscapeReading := ⟨Text.isDecimalDigit, Text.isBlank⟩

namespace ClassItem

def holds (reading : EscapeReading) (c : Char) : ClassItem → Bool
  | digit => reading.digit c
  | blank => reading.blank c
  | range first last => decide (first ≤ c ∧ c ≤ last)

def source : ClassItem → String
  | digit => "\\d"
  | blank => "\\s"
  | range first last => String.ofList [first, '-', last]

end ClassItem

inductive Pattern
  | digitsOnly | alphanumeric
deriving DecidableEq, Inhabited

namespace Pattern

def all : List Pattern := [digitsOnly, alphanumeric]

def name : Pattern → String
  | digitsOnly => "digits-only"
  | alphanumeric => "alphanumeric"

def ofName? (name : String) : Option Pattern := all.find? fun p => p.name == name

def items : Pattern → List ClassItem
  | digitsOnly => [.digit]
  | alphanumeric => [.range 'a' 'z', .range 'A' 'Z', .range '0' '9', .blank]

def accepts (p : Pattern) (reading : EscapeReading) (s : String) : Bool :=
  !s.toList.isEmpty && s.toList.all fun c => p.items.any (ClassItem.holds reading c)

/-- The regular expression, anchored at both ends. A class of several items is bracketed. -/
def source (p : Pattern) : String :=
  let text := String.join (p.items.map ClassItem.source)
  "^" ++ (if p.items.length = 1 then text else "[" ++ text ++ "]") ++ "+$"

def message : Pattern → String
  | digitsOnly => "Must contain only numbers"
  | alphanumeric => "Must contain only letters, numbers, and spaces"

end Pattern

end FormCompiler
