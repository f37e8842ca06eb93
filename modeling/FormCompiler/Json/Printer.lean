import FormCompiler.Decimal.Notation
import FormCompiler.Json.Basic

/-! The text of a JSON value, on one line or indented. Members are printed in the order in which
the object has them. -/

namespace FormCompiler

/-- JSON numbers show that they are binary: whole ones end in `.0`, and from a certain size on
either side of one there is an exponent. -/
def NumberStyle.json : NumberStyle where
  tie := .toEven
  writtenOut e := -5 ≤ e && e ≤ 15
  pointZero := true
  signedZero := true
  notANumber := "null"
  infinity := "null"

def Number.text : Number → String
  | .int n => toString n
  | .float x => x.text .json

namespace Json

def escape (c : Char) : String :=
  match c with
  | '"' => "\\\""
  | '\\' => "\\\\"
  | '\x08' => "\\b"
  | '\x0c' => "\\f"
  | '\n' => "\\n"
  | '\r' => "\\r"
  | '\t' => "\\t"
  | c =>
    if c.toNat < 0x10 then "\\u000" ++ String.ofList (Nat.toDigits 16 c.toNat)
    else if c.toNat < 0x20 then "\\u00" ++ String.ofList (Nat.toDigits 16 c.toNat)
    else c.toString

def quote (s : String) : String := "\"" ++ String.join (s.toList.map escape) ++ "\""

/-- How the parts of a container are set: what stands before each part at a given depth, what
stands before the closing bracket, and what stands after a key. -/
structure Spacing where
  lead : Nat → String
  colon : String

def Spacing.compact : Spacing := ⟨fun _ => "", ":"⟩

/-- Each part on a line of its own, two blanks deeper than its container. -/
def Spacing.indented : Spacing :=
  ⟨fun depth => "\n" ++ String.ofList (List.replicate (2 * depth) ' '), ": "⟩

mutual

def print (spacing : Spacing) (depth : Nat) : Json → String
  | null => "null"
  | bool b => if b then "true" else "false"
  | number n => n.text
  | string s => quote s
  | array [] => "[]"
  | array (item :: items) =>
    "[" ++ spacing.lead (depth + 1) ++ print spacing (depth + 1) item ++
      printItems spacing (depth + 1) items ++ spacing.lead depth ++ "]"
  | object [] => "\x7b\x7d"
  | object ((key, item) :: members) =>
    "\x7b" ++ spacing.lead (depth + 1) ++ quote key ++ spacing.colon ++
      print spacing (depth + 1) item ++ printMembers spacing (depth + 1) members ++
      spacing.lead depth ++ "\x7d"

def printItems (spacing : Spacing) (depth : Nat) : List Json → String
  | [] => ""
  | item :: items =>
    "," ++ spacing.lead depth ++ print spacing depth item ++ printItems spacing depth items

def printMembers (spacing : Spacing) (depth : Nat) : List (String × Json) → String
  | [] => ""
  | (key, item) :: members =>
    "," ++ spacing.lead depth ++ quote key ++ spacing.colon ++ print spacing depth item ++
      printMembers spacing depth members

end

def compact (v : Json) : String := v.print .compact 0

def indented (v : Json) : String := v.print .indented 0

end Json

end FormCompiler
