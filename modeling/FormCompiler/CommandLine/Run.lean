import FormCompiler.CommandLine.Arguments
import FormCompiler.Component.Source
import FormCompiler.Editor.State
import FormCompiler.Exchange.Export
import FormCompiler.Form.Json
import FormCompiler.Form.Schema
import FormCompiler.Rule.Json
import FormCompiler.Text.Quoted
import FormCompiler.Validation

/-! What a command prints and writes, given the files that it can read. -/

namespace FormCompiler

structure Files where
  read : String → Option String
  accepts : String → Bool

inductive CommandError
  | message (text : String)
  | json (fault : Json.Fault)
  | missingFieldList
  | files
deriving DecidableEq, Inhabited

def CommandError.line : CommandError → String
  | message text => Text.quoted text
  | json _ => "invalid JSON"
  | missingFieldList => "MissingFieldList"
  | files => "cannot read or write file"

structure Outcome where
  exit : Nat
  stdout : String := ""
  error : Option CommandError := none
  output : Option (String × String) := none
deriving DecidableEq, Inhabited

namespace Outcome

def printed (text : String) : Outcome := { exit := 0, stdout := text ++ "\n" }

def failed (stdout : String) (e : CommandError) : Outcome :=
  { exit := 1, stdout := stdout, error := some e }

def ofExcept : Except CommandError Outcome → Outcome
  | .ok outcome => outcome
  | .error e => failed "" e

end Outcome

/-- A relative path lies under the output directory, if there is one. -/
def outputPath (outputDir : Option String) (path : String) : String :=
  match outputDir with
  | none => path
  | some dir =>
    if dir = "" ∨ "/".toList.isPrefixOf path.toList then path
    else if "/".toList.isSuffixOf dir.toList then dir ++ path
    else dir ++ "/" ++ path

namespace Files

def text (files : Files) (path : String) : Except CommandError String :=
  match files.read path with
  | some text => .ok text
  | none => .error .files

def form (files : Files) (path : String) : Except CommandError Form := do
  (Form.ofText (← files.text path)).mapError .json

end Files

/-- Refuses a form in which fields share a name. Its other issues do not matter here. -/
def Form.compilable (form : Form) : Except CommandError Form :=
  if form.namesAreUnique then .ok form
  else
    let names := ", ".intercalate form.repeatedNames
    .error (.message s!"form '{form.name}' has duplicate field names: {names}")

def Files.compilableForm (files : Files) (path : String) : Except CommandError Form := do
  (← files.form path).compilable

/-- Prints a result, or writes it to a file and says so. -/
def Outcome.deliver (files : Files) (outputDir out : Option String) (what content : String) :
    Except CommandError Outcome :=
  match out with
  | none => .ok (printed content)
  | some out =>
    let path := outputPath outputDir out
    if files.accepts path then
      .ok { printed s!"Wrote {what} to {path}" with output := some (path, content) }
    else .error .files

def Verdict.report (v : Verdict) : String :=
  let errorLine (e : ValueError) : String := s!"  {e.path} - {e.message}\n"
  let nameLine (head : String) (names : List String) : String :=
    if names.isEmpty then "" else head ++ ", ".intercalate names ++ "\n"
  "Validation result: " ++ (if v.valid then "valid" else "invalid") ++ "\n" ++
    (if v.errors.isEmpty then "" else "Errors:\n" ++ String.join (v.errors.map errorLine)) ++
    nameLine "Missing required values: " v.missingRequired ++
    nameLine "Unknown value fields: " v.unknownFields

def Verdict.outcome (v : Verdict) : Outcome :=
  if v.valid then { exit := 0, stdout := v.report }
  else .failed v.report (.message "validation failed")

def Form.checkOutcome (form : Form) : Outcome :=
  let issues := form.check
  if issues.isEmpty then .printed s!"Form '{form.name}' has no issues"
  else
    let head := s!"Form '{form.name}' has {issues.length} issue(s):\n"
    let lines := issues.map fun i => s!"  - {i.message}\n"
    .failed (head ++ String.join lines) (.message s!"{issues.length} issue(s) found")

namespace Command

def run (files : Files) (outputDir : Option String) (c : Command) : Outcome :=
  .ofExcept <| match c with
  | emit path out => do
    let form ← files.compilableForm path
    match form.emit with
    | .empty => return .printed Emission.empty.display
    | .source text => Outcome.deliver files outputDir out "component" text
  | rules path => do return .printed (← files.compilableForm path).schema.toJson.indented
  | validate path valuesPath => do
    let form ← files.compilableForm path
    let values ← (Json.ofText (← files.text valuesPath)).mapError .json
    return (form.schema.validate values).outcome
  | exportForm path out => do
    let form ← files.compilableForm path
    Outcome.deliver files outputDir out "interchange document" form.toDocument.toJson.indented
  | importDocument path out => do
    match Exchange.Document.parse (← files.text path) with
    | .error (.json fault) => .error (.json fault)
    | .error .missingFieldList => .error .missingFieldList
    | .ok d =>
      let form := (EditorState.importDocument {} d).form
      Outcome.deliver files outputDir out "form definition" form.toJson.indented
  | check path => do return (← files.form path).checkOutcome
  | schema => return .printed FormSchema.form.indented

def runLine (files : Files) (outputDir : Option String) (args : List String) : Outcome :=
  match parse false args with
  | .ok c => c.run files outputDir
  | .error .help => .printed usage
  | .error .version => .printed "formgen 0.2.0"
  | .error .misuse => { exit := 2 }
where
  usage : String :=
    "Usage: formgen [--verbose] <emit|rules|validate|export|import|check|schema> [options]"

end Command

end FormCompiler
