import FormCompiler.Json.Tree.Basic
import FormCompiler.Text.Basic

/-! Reading a text into a tree. Every text has a tree: where it cannot be read on, the tree says
so and ends. -/

namespace FormCompiler.Json.Tree

open FormCompiler.Text

def isSpace (c : Char) : Bool := c == ' ' || c == '\n' || c == '\t' || c == '\r'

def dropSpace (cs : List Char) : List Char := cs.dropWhile isSpace

def readWord : List Char → List Char → Except Fault (List Char)
  | [], cs => .ok cs
  | _ :: _, [] => .error .truncated
  | w :: word, c :: cs => if c = w then readWord word cs else .error .malformed

/-! ## Numbers -/

def readDigits (cs : List Char) : Except Fault (List Char × List Char) :=
  match spanDigits cs with
  | ([], []) => .error .truncated
  | ([], _) => .error .malformed
  | (digits, rest) => .ok (digits, rest)

/-- The digits before the point, with no zero in front. -/
def readWhole (cs : List Char) : Except Fault (List Char × List Char) := do
  match ← readDigits cs with
  | ('0' :: _ :: _, _) => .error .malformed
  | whole => return whole

def readFraction : List Char → Except Fault (Option (List Char) × List Char)
  | '.' :: cs => do
    let (digits, rest) ← readDigits cs
    return (some digits, rest)
  | cs => .ok (none, cs)

def readExponent : List Char → Except Fault (Option Int × List Char)
  | c :: cs =>
    if c = 'e' ∨ c = 'E' then do
      let (negative, cs) := match cs with
        | '-' :: cs => (true, cs)
        | '+' :: cs => (false, cs)
        | cs => (false, cs)
      let (digits, rest) ← readDigits cs
      return (some (if negative then -(numeral digits : Int) else numeral digits), rest)
    else .ok (none, c :: cs)
  | [] => .ok (none, [])

/-- A number without point and exponent is whole if it fits 64 bits. Minus zero is not whole. -/
def wholeNumber (negative : Bool) (n : Nat) : Number :=
  if negative then
    if n = 0 ∨ UInt64.size < 2 * n then .float (.ofDecimal true n 0) else .int (-n)
  else if n < UInt64.size then .int n
  else .float (.ofDecimal false n 0)

/-- A number too large to be finite is a fault of the text. -/
def checkFinite : Number → Except Fault Number
  | .int n => .ok (.int n)
  | .float x => if x.isFinite then .ok (.float x) else .error .malformed

/-- Reads a number. One that breaks off is a fault of either kind; one that is too large is
a fault for whoever takes it. -/
def readNumber (cs : List Char) : Except Fault (Except Fault Number × List Char) := do
  let (negative, cs) := match cs with
    | '-' :: cs => (true, cs)
    | cs => (false, cs)
  let (whole, cs) ← readWhole cs
  let (fraction, cs) ← readFraction cs
  let (exponent, cs) ← readExponent cs
  let number := match fraction, exponent with
    | none, none => wholeNumber negative (numeral whole)
    | _, _ =>
      let places := fraction.getD []
      .float (.ofDecimal negative (numeral (whole ++ places)) (exponent.getD 0 - places.length))
  return (checkFinite number, cs)

/-! ## Strings -/

inductive Quoted
  | closed (content : Except Fault String) (rest : List Char)
  | unclosed (strict lax : Fault)

def hexDigit? (c : Char) : Option Nat :=
  if c.isDigit then some (c.toNat - 48)
  else if 'a' ≤ c ∧ c ≤ 'f' then some (c.toNat - 87)
  else if 'A' ≤ c ∧ c ≤ 'F' then some (c.toNat - 55)
  else none

/-- The unit that four hexadecimal digits stand for. The text must have four more bytes. -/
def readUnit (cs : List Char) : Except Fault (Nat × List Char) :=
  if (String.ofList (cs.take 4)).utf8ByteSize < 4 then .error .truncated
  else match (cs.take 4).mapM hexDigit? with
    | some digits => .ok (digits.foldl (fun n d => 16 * n + d) 0, cs.drop 4)
    | none => .error .malformed

def isHighUnit (n : Nat) : Bool := 0xd800 ≤ n && n ≤ 0xdbff

def isLowUnit (n : Nat) : Bool := 0xdc00 ≤ n && n ≤ 0xdfff

inductive SecondHalf
  | found (unit : Nat) (rest : List Char)
  | absent
  | cut

/-- The escaped low unit that has to follow a high one. -/
def readSecondHalf : List Char → SecondHalf
  | [] | ['\\'] => .cut
  | '\\' :: 'u' :: cs => match readUnit cs with
    | .ok (n, rest) => if isLowUnit n then .found n rest else .absent
    | .error .truncated => .cut
    | .error _ => .absent
  | _ => .absent

def escaped? : Char → Option Char
  | '"' => some '"'
  | '\\' => some '\\'
  | '/' => some '/'
  | 'b' => some '\x08'
  | 'f' => some '\x0c'
  | 'n' => some '\n'
  | 'r' => some '\r'
  | 't' => some '\t'
  | _ => none

/-- Reads on to the closing quote. Half a character does not end the reading, it only spoils the
content. -/
def readQuoted : Nat → Option Fault → List Char → List Char → Quoted
  | 0, _, _, _ => .unclosed .malformed .malformed
  | fuel + 1, spoilt, acc, cs =>
    let unclosed (fault : Fault) : Quoted := .unclosed (spoilt.getD fault) fault
    match cs with
    | [] => unclosed .truncated
    | '"' :: rest => match spoilt with
      | none => .closed (.ok (String.ofList acc.reverse)) rest
      | some fault => .closed (.error fault) rest
    | ['\\'] => unclosed .truncated
    | '\\' :: 'u' :: rest => match readUnit rest with
      | .error fault => unclosed fault
      | .ok (n, rest) =>
        if isHighUnit n then
          match readSecondHalf rest with
          | .found low rest =>
            let c := Char.ofNat (0x10000 + (n - 0xd800) * 0x400 + (low - 0xdc00))
            readQuoted fuel spoilt (c :: acc) rest
          | .absent => readQuoted fuel (spoilt <|> some .malformed) acc rest
          | .cut => readQuoted fuel spoilt acc rest
        else if isLowUnit n then readQuoted fuel (spoilt <|> some .malformed) acc rest
        else readQuoted fuel spoilt (Char.ofNat n :: acc) rest
    | '\\' :: c :: rest => match escaped? c with
      | some e => readQuoted fuel spoilt (e :: acc) rest
      | none => unclosed .malformed
    | c :: rest =>
      if c.toNat < 0x20 then unclosed .malformed else readQuoted fuel spoilt (c :: acc) rest

def quoted (cs : List Char) : Quoted := readQuoted (cs.length + 1) none [] cs

/-! ## Values -/

def maxDepth : Nat := 127

/-- The fault of a reader who expects a name here. -/
def nameFault : Tree → Fault
  | broken _ strict _ => strict
  | number (.error fault) => fault
  | _ => .wrongType

def readWordAs (word : String) (t : Tree) (cs : List Char) : Tree × Option (List Char) :=
  match readWord word.toList cs with
  | .ok rest => (t, some rest)
  | .error fault => (broken word.toList.head? fault fault, none)

mutual

/-- Reads a value. What is left of the text is absent where it could not be read on. -/
def readValue : Nat → Nat → List Char → Tree × Option (List Char)
  | 0, _, _ => (broken none .malformed .malformed, none)
  | fuel + 1, depth, cs =>
    let tooDeep := decide (maxDepth ≤ depth)
    match dropSpace cs with
    | [] => (broken none .truncated .truncated, none)
    | 'n' :: cs => readWordAs "null" null ('n' :: cs)
    | 't' :: cs => readWordAs "true" (bool true) ('t' :: cs)
    | 'f' :: cs => readWordAs "false" (bool false) ('f' :: cs)
    | '"' :: cs => match quoted cs with
      | .closed content rest => (string content, some rest)
      | .unclosed strict lax => (broken '"' strict lax, none)
    | '[' :: cs => match dropSpace cs with
      | [] => (array tooDeep [] (some .truncated), none)
      | ']' :: rest => (array tooDeep [] none, some rest)
      | cs =>
        let (items, stop, rest) := readItems fuel (depth + 1) cs
        (array tooDeep items stop, rest)
    | '{' :: cs => match dropSpace cs with
      | '}' :: rest => (object tooDeep [] none, some rest)
      | cs =>
        let (members, stop, rest) := readMembers fuel (depth + 1) true cs
        (object tooDeep members stop, rest)
    | c :: cs =>
      if c = '-' ∨ c.isDigit then
        match readNumber (c :: cs) with
        | .ok (n, rest) => (number n, some rest)
        | .error fault => (broken c fault .malformed, none)
      else (broken c .malformed .malformed, none)

/-- Reads the items of an array, of which there is one at least. -/
def readItems : Nat → Nat → List Char → List Tree × Option Fault × Option (List Char)
  | 0, _, _ => ([], some .malformed, none)
  | fuel + 1, depth, cs =>
    let (item, rest) := readValue fuel depth cs
    match rest.map dropSpace with
    | none => ([item], none, none)
    | some [] => ([item], some .truncated, none)
    | some (']' :: rest) => ([item], none, some rest)
    | some (',' :: rest) =>
      let (items, stop, rest) := readItems fuel depth rest
      (item :: items, stop, rest)
    | some _ => ([item], some .malformed, none)

/-- Reads the members of an object, of which there is one at least. -/
def readMembers : Nat → Nat → Bool → List Char →
    List (Except Fault String × Tree) × Option Stop × Option (List Char)
  | 0, _, _, _ => ([], some ⟨.malformed, .malformed, .malformed⟩, none)
  | fuel + 1, depth, first, cs =>
    let keyStop (strict lax single : Fault) : Option Stop :=
      some ⟨strict, lax, if first then single else .malformed⟩
    match dropSpace cs with
    | [] => ([], keyStop .truncated .truncated .truncated, none)
    | '"' :: cs => match quoted cs with
      | .unclosed strict lax => ([], keyStop strict lax strict, none)
      | .closed key rest => match dropSpace rest with
        | [] => ([(key, broken none .truncated .truncated)], none, none)
        | ':' :: rest =>
          let (item, rest) := readValue fuel depth rest
          match rest.map dropSpace with
          | none => ([(key, item)], none, none)
          | some [] => ([(key, item)], some ⟨.truncated, .truncated, .truncated⟩, none)
          | some ('}' :: rest) => ([(key, item)], none, some rest)
          | some (',' :: rest) =>
            let (members, stop, rest) := readMembers fuel depth false rest
            ((key, item) :: members, stop, rest)
          | some _ => ([(key, item)], some ⟨.malformed, .malformed, .malformed⟩, none)
        | c :: _ => ([(key, broken c .malformed .malformed)], none, none)
    | cs =>
      let found := (readValue fuel depth cs).1
      ([], keyStop .malformed .malformed (nameFault found), none)

end

/-- The tree of a text, and the fault of whatever follows its value. -/
def ofText (text : String) : Tree × Option Fault :=
  let cs := text.toList
  match readValue (2 * cs.length + 2) 0 cs with
  | (t, none) => (t, none)
  | (t, some rest) => (t, if (dropSpace rest).isEmpty then none else some .malformed)

end FormCompiler.Json.Tree

namespace FormCompiler.Json

def ofText (text : String) : Except Fault Json := do
  let (t, trailing) := Tree.ofText text
  let value ← t.value
  accept trailing
  return value

end FormCompiler.Json
