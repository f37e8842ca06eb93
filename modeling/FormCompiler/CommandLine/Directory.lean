import FormCompiler.CommandLine.Run

/-! A directory that holds files by their paths, and what becomes of it when a command is run in
it. Directories on the way to a new file are made. -/

namespace FormCompiler

/-- Files by the parts of their paths. -/
structure Directory where
  files : List (List String × String)

namespace Directory

def ofFiles (files : List (String × String)) : Directory :=
  ⟨files.map fun (path, text) => (path.splitOn "/", text)⟩

def file? (d : Directory) (path : List String) : Option String := d.files.lookup path

def isDirectory (d : Directory) (path : List String) : Bool :=
  path.isEmpty || d.files.any fun f => path.isPrefixOf f.1 && path.length < f.1.length

inductive Place
  | inside (path : List String)
  | outside
  | nowhere
deriving DecidableEq

/-- Follows directory names from a directory on. Those that do not exist are there if they can be
made. -/
def follow (d : Directory) (making : Bool) (here : List String) : List String → Place
  | [] => .inside here
  | part :: rest =>
    if part = "" ∨ part = "." then follow d making here rest
    else if part = ".." then
      if here = [] then .outside else follow d making here.dropLast rest
    else
      let next := here ++ [part]
      if d.isDirectory next ∨ (making ∧ (d.file? next).isNone) then follow d making next rest
      else .nowhere

/-- The place of a file. A path that ends like the path of a directory leads to none. -/
def place (d : Directory) (making : Bool) (path : String) : Place :=
  let parts := path.splitOn "/"
  if "/".toList.isPrefixOf path.toList then .outside
  else if ["", ".", ".."].contains (parts.getLastD "") then .nowhere
  else match d.follow making [] parts.dropLast with
    | .inside here =>
      let file := here ++ [parts.getLastD ""]
      if d.isDirectory file then .nowhere else .inside file
    | other => other

def asFiles (d : Directory) : Files where
  read path := match d.place false path with
    | .inside file => d.file? file
    | _ => none
  accepts path := d.place true path ≠ .nowhere

/-- The file that an outcome leaves new or changed in the directory. -/
def changed (d : Directory) (o : Outcome) : List (String × String) :=
  match o.output with
  | none => []
  | some (path, text) => match d.place true path with
    | .inside file => if d.file? file = some text then [] else [("/".intercalate file, text)]
    | _ => []

end Directory

end FormCompiler
