import FormCompiler.Component.Widget

/-! Generated code as a tree of lines and elements. Printing indents each line by the depth of
its node and leaves the text of the line alone, so text that spans lines is printed as it is. -/

namespace FormCompiler

inductive Tag
  | html (name : String)
  | widget (w : Widget)
deriving DecidableEq

def Tag.name : Tag → String
  | html name => name
  | widget w => w.name

instance : Coe Widget Tag := ⟨.widget⟩

inductive Markup
  | line (text : String)
  | blank
  /-- Each part is a line with deeper nodes below it; a last line closes the whole. -/
  | sections (parts : List (String × List Markup)) (closing : String)
  | void (tag : Tag) (attributes : List String)
  | leaf (tag : Tag) (attributes : List String) (content : String)
  | element (tag : Tag) (attributes : List String) (children : List Markup)
  /-- An element without content that has its attributes on lines below the tag. -/
  | tallVoid (tag : Tag) (attributes : List Markup)
  | tallElement (tag : Tag) (attributes children : List Markup)
  /-- Nodes that are printed at a depth of their own. -/
  | atDepth (depth : Nat) (nodes : List Markup)

namespace Markup

def indent (depth : Nat) (text : String) : String :=
  String.ofList (List.replicate (2 * depth) ' ') ++ text

def opening (tag : Tag) (attributes : List String) : String :=
  " ".intercalate (("<" ++ tag.name) :: attributes)

def closing (tag : Tag) : String := "</" ++ tag.name ++ ">"

mutual

def lines (depth : Nat) : Markup → List String
  | line text => [indent depth text]
  | blank => [""]
  | sections parts last => partLines depth parts ++ [indent depth last]
  | void tag attributes => [indent depth (opening tag attributes ++ " />")]
  | leaf tag attributes content =>
    [indent depth (opening tag attributes ++ ">" ++ content ++ closing tag)]
  | element tag attributes children =>
    indent depth (opening tag attributes ++ ">") ::
      (allLines (depth + 1) children ++ [indent depth (closing tag)])
  | tallVoid tag attributes =>
    indent depth (opening tag []) :: (allLines (depth + 1) attributes ++ [indent depth "/>"])
  | tallElement tag attributes children =>
    indent depth (opening tag []) ::
      (allLines (depth + 1) attributes ++ [indent depth ">"] ++ allLines (depth + 1) children ++
        [indent depth (closing tag)])
  | atDepth own nodes => allLines own nodes

def allLines (depth : Nat) : List Markup → List String
  | [] => []
  | node :: nodes => lines depth node ++ allLines depth nodes

def partLines (depth : Nat) : List (String × List Markup) → List String
  | [] => []
  | (head, nodes) :: parts =>
    indent depth head :: (allLines (depth + 1) nodes ++ partLines depth parts)

end

def print (nodes : List Markup) : String := "\n".intercalate (allLines 0 nodes)

def Tag.widgets : Tag → List Widget
  | .widget w => [w]
  | .html _ => []

mutual

def opened : Markup → List Widget
  | line _ | blank => []
  | sections parts _ => partsOpened parts
  | void tag _ | leaf tag _ _ => Tag.widgets tag
  | element tag _ children => Tag.widgets tag ++ allOpened children
  | tallVoid tag attributes => Tag.widgets tag ++ allOpened attributes
  | tallElement tag attributes children =>
    Tag.widgets tag ++ allOpened attributes ++ allOpened children
  | atDepth _ nodes => allOpened nodes

def allOpened : List Markup → List Widget
  | [] => []
  | node :: nodes => opened node ++ allOpened nodes

def partsOpened : List (String × List Markup) → List Widget
  | [] => []
  | (_, nodes) :: parts => allOpened nodes ++ partsOpened parts

end

/-! ## Forms of lines -/

def braced (text : String) : String := "\x7b" ++ text ++ "\x7d"

def literal (name value : String) : String := name ++ "=\"" ++ value ++ "\""

def expression (name value : String) : String := name ++ "=" ++ braced value

def spread (value : String) : String := braced ("..." ++ value)

def block (head : String) (nodes : List Markup) (after : String) : Markup :=
  sections [(head ++ " \x7b", nodes)] ("\x7d" ++ after)

def group (head : String) (nodes : List Markup) (after : String) : Markup :=
  sections [(head ++ " (", nodes)] (")" ++ after)

def call (function : String) (members : List Markup) : Markup :=
  sections [(function ++ "(\x7b", members)] "\x7d)"

/-- An attribute that is a function of the parameters with an element as its value. -/
def view (name params : String) (nodes : List Markup) : Markup :=
  group (name ++ "=\x7b(" ++ params ++ ") =>") nodes "\x7d"

/-- An attribute that is a function of the parameters with statements. -/
def handler (name params : String) (nodes : List Markup) : Markup :=
  block (name ++ "=\x7b(" ++ params ++ ") =>") nodes "\x7d"

def choice (condition : String) (yes no : List Markup) : Markup :=
  sections [("\x7b" ++ condition ++ " ? (", yes), (") : (", no)] ")\x7d"

/-- An element that is there under a condition. -/
def guarded (condition : String) (nodes : List Markup) : Markup :=
  group ("\x7b" ++ condition ++ " &&") nodes "\x7d"

end Markup

end FormCompiler
