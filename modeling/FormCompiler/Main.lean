import FormCompiler.CommandLine.Run

/-! The command line program. -/

namespace FormCompiler

def readInput (path : String) : IO (Option String) := do
  match ← (IO.FS.readFile path).toBaseIO with
  | .ok text => return some text
  | .error _ => return none

/-- Writes a file together with the directories above it, and tells whether that was possible. -/
def writeOutput (path text : String) : IO Bool := do
  let parts := path.splitOn "/"
  let above := "/".intercalate parts.dropLast
  let work : IO Unit := do
    if above ≠ "" then IO.FS.createDirAll above
    IO.FS.writeFile path text
  match ← work.toBaseIO with
  | .ok _ => return true
  | .error _ => return false

def fail (e : CommandError) : IO UInt32 := do
  IO.eprintln s!"Error: {e.line}"
  return 1

end FormCompiler

open FormCompiler

def main (args : List String) : IO UInt32 := do
  let outputDir ← IO.getEnv "FORMGEN_OUTPUT_DIR"
  let paths := match Command.parse false args with
    | .ok c => c.inputs
    | .error _ => []
  let texts ← paths.mapM fun path => do return (path, ← readInput path)
  let files : Files := ⟨fun path => (texts.lookup path).join, fun _ => true⟩
  let outcome := Command.runLine files outputDir args
  if let some (path, text) := outcome.output then
    unless ← writeOutput path text do
      return ← fail .files
  IO.print outcome.stdout
  match outcome.error with
  | some e => fail e
  | none =>
    if outcome.exit = 2 then IO.eprintln "error: the arguments are not understood; try --help"
    return outcome.exit.toUInt32
