/-! The commands and how they are written. Options take a value, each at most once; the flag for
more output may stand before the command and among its options. -/

namespace FormCompiler

inductive Command
  | emit (form : String) (out : Option String)
  | rules (form : String)
  | validate (form values : String)
  | exportForm (form : String) (out : Option String)
  | importDocument (input : String) (out : Option String)
  | check (form : String)
  | schema
deriving DecidableEq, Inhabited

inductive NoCommand
  | help | version | misuse
deriving DecidableEq, Inhabited

namespace Command

def longOption? (arg : String) : Option (String × Option String) :=
  ("--".toList.isPrefixOf? arg.toList).map fun cs =>
    let name := String.ofList (cs.takeWhile (· ≠ '='))
    match cs.dropWhile (· ≠ '=') with
    | [] => (name, none)
    | _ :: value => (name, some (String.ofList value))

def isVerbose (name : String) : Bool := name == "verbose" || name == "debug"

/-- What begins with a dash is no value, except the dash itself. -/
def isValue (arg : String) : Bool := arg ≠ "" && (arg == "-" || !"-".toList.isPrefixOf arg.toList)

def readOptions (allowed : List String) (seen : List (String × String)) (verbose : Bool) :
    List String → Except NoCommand (List (String × String))
  | [] | ["--"] => .ok seen
  | arg :: rest =>
    match longOption? arg with
    | none => .error (if arg = "-h" then .help else .misuse)
    | some (name, attached) =>
      let known := allowed.contains name && !seen.any fun s => s.1 == name
      match attached, rest with
      | some value, rest =>
        if known && value ≠ "" then readOptions allowed ((name, value) :: seen) verbose rest
        else .error .misuse
      | none, rest =>
        if isVerbose name then
          if verbose then .error .misuse else readOptions allowed seen true rest
        else if name = "help" then .error .help
        else match rest with
          | value :: rest =>
            if known && isValue value then readOptions allowed ((name, value) :: seen) verbose rest
            else .error .misuse
          | [] => .error .misuse

def ofName (name : String) (args : List String) : Except NoCommand Command := do
  let options (allowed : List String) := readOptions allowed [] false args
  let need (options : List (String × String)) (name : String) : Except NoCommand String :=
    match options.lookup name with
    | some value => .ok value
    | none => .error .misuse
  match name with
  | "emit" => do
    let o ← options ["form", "out"]
    return emit (← need o "form") (o.lookup "out")
  | "rules" => do return rules (← need (← options ["form"]) "form")
  | "validate" => do
    let o ← options ["form", "values"]
    return validate (← need o "form") (← need o "values")
  | "export" => do
    let o ← options ["form", "out"]
    return exportForm (← need o "form") (o.lookup "out")
  | "import" => do
    let o ← options ["input", "out"]
    return importDocument (← need o "input") (o.lookup "out")
  | "check" => do return check (← need (← options ["form"]) "form")
  | "schema" => do
    let _ ← options []
    return schema
  | _ => .error .misuse

def parse (verbose : Bool) : List String → Except NoCommand Command
  | [] => .error .misuse
  | arg :: rest =>
    if arg = "--verbose" ∨ arg = "--debug" then
      if verbose then .error .misuse else parse true rest
    else if arg = "--help" ∨ arg = "-h" ∨ arg = "help" then .error .help
    else if arg = "--version" ∨ arg = "-V" then .error .version
    else ofName arg rest

def inputs : Command → List String
  | emit form _ | rules form | exportForm form _ | check form => [form]
  | validate form values => [form, values]
  | importDocument input _ => [input]
  | schema => []

end Command

end FormCompiler
