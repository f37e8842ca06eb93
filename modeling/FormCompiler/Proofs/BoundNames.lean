import FormCompiler.Component.Source
import Mathlib.Data.List.Basic

/-! The names that a generated component binds, read off its printed lines: import lines and
function declarations at the margin bind names, indented lines bind none. -/

namespace FormCompiler

namespace Markup

/-! ## Names bound by lines -/

/-- What a line has after the words with which it begins. -/
def after? (head line : String) : Option (List Char) := head.toList.isPrefixOf? line.toList

/-- Lines that begin so bind the name that follows. -/
def bindingHeads : List String := ["import * as ", "function ", "export default function "]

/-- Names up to a closing brace, with commas between them. -/
def listedNames (rest : List Char) : List String :=
  (((rest.takeWhile (· ≠ '\x7d')).filter (· ≠ ' ')).splitOn ',').map String.ofList

/-- A name up to a blank or to its parameters. -/
def leadingName (rest : List Char) : String :=
  String.ofList (rest.takeWhile fun c => c ≠ ' ' && c ≠ '(')

def boundNames (line : String) : List String :=
  match after? "import \x7b" line with
  | some rest => listedNames rest
  | none => ((bindingHeads.findSome? fun head => after? head line).map leadingName).toList

theorem after?_append (head rest : String) : after? head (head ++ rest) = some rest.toList := by
  rw [after?, List.isPrefixOf?_eq_some_iff_append_eq, String.toList_append]

theorem after?_eq_none {head line : String} {first c : Char} {rest cs : List Char}
    (hhead : head.toList = first :: rest) (hline : line.toList = c :: cs) (h : first ≠ c) :
    after? head line = none := by
  rw [after?, hhead, hline]
  simp [List.isPrefixOf?, h]

/-- Only lines that begin with one of three letters can bind a name. -/
theorem boundNames_eq_nil {line : String} {c : Char} {cs : List Char} (h : line.toList = c :: cs)
    (hi : 'i' ≠ c) (hf : 'f' ≠ c) (he : 'e' ≠ c) : boundNames line = [] := by
  have hlist : after? "import \x7b" line = none := after?_eq_none rfl h hi
  have hall : after? "import * as " line = none := after?_eq_none rfl h hi
  have hfunction : after? "function " line = none := after?_eq_none rfl h hf
  have hexport : after? "export default function " line = none := after?_eq_none rfl h he
  simp [boundNames, bindingHeads, hlist, hall, hfunction, hexport]

theorem boundNames_indent (depth : Nat) (text : String) :
    boundNames (indent (depth + 1) text) = [] := by
  have hline : (indent (depth + 1) text).toList =
      ' ' :: (List.replicate (2 * depth + 1) ' ' ++ text.toList) := by
    rw [indent, String.toList_append, String.toList_ofList, Nat.mul_succ, List.replicate_succ]
    rfl
  exact boundNames_eq_nil hline (by decide) (by decide) (by decide)

theorem boundNames_function (rest : String) :
    boundNames ("function " ++ rest) = [leadingName rest.toList] := by
  have hline : ("function " ++ rest).toList = 'f' :: ("unction ".toList ++ rest.toList) := by
    rw [String.toList_append]
    rfl
  have hlist : after? "import \x7b" ("function " ++ rest) = none :=
    after?_eq_none rfl hline (by decide)
  have hall : after? "import * as " ("function " ++ rest) = none :=
    after?_eq_none rfl hline (by decide)
  simp [boundNames, bindingHeads, hlist, hall, after?_append]

theorem boundNames_exported (rest : String) :
    boundNames ("export default function " ++ rest) = [leadingName rest.toList] := by
  have hline : ("export default function " ++ rest).toList =
      'e' :: ("xport default function ".toList ++ rest.toList) := by
    rw [String.toList_append]
    rfl
  have hlist : after? "import \x7b" ("export default function " ++ rest) = none :=
    after?_eq_none rfl hline (by decide)
  have hall : after? "import * as " ("export default function " ++ rest) = none :=
    after?_eq_none rfl hline (by decide)
  have hfunction : after? "function " ("export default function " ++ rest) = none :=
    after?_eq_none rfl hline (by decide)
  simp [boundNames, bindingHeads, hlist, hall, hfunction, after?_append]

/-! ## Lists of names -/

theorem mem_intercalate_comma {words : List (List Char)} {c : Char}
    (h : c ∈ [',', ' '].intercalate words) : (∃ word ∈ words, c ∈ word) ∨ c = ',' ∨ c = ' ' := by
  induction words with
  | nil => simp at h
  | cons word rest ih =>
    cases rest with
    | nil => exact Or.inl ⟨word, List.mem_singleton_self word, by simpa using h⟩
    | cons next rest =>
      rw [List.intercalate_cons_cons, List.mem_append, List.mem_append] at h
      rcases h with (h | h) | h
      · exact Or.inl ⟨word, List.mem_cons_self, h⟩
      · exact Or.inr (by simpa using h)
      · exact (ih h).imp_left fun ⟨w, hw, hc⟩ => ⟨w, List.mem_cons_of_mem word hw, hc⟩

theorem filter_blank_intercalate {words : List (List Char)}
    (h : ∀ word ∈ words, ∀ c ∈ word, c ≠ ' ') :
    ([',', ' '].intercalate words).filter (· ≠ ' ') = [','].intercalate words := by
  induction words with
  | nil => rfl
  | cons word rest ih =>
    have hword : word.filter (· ≠ ' ') = word := by
      rw [List.filter_eq_self]
      simpa using h word List.mem_cons_self
    cases rest with
    | nil => simpa using hword
    | cons next rest =>
      have htail := ih fun w hw => h w (List.mem_cons_of_mem word hw)
      rw [List.intercalate_cons_cons, List.intercalate_cons_cons, List.filter_append,
        List.filter_append, hword, htail]
      rfl

/-- A name that lists and declarations do not cut. -/
def PlainName (name : String) : Prop := name.toList.all Char.isAlphanum = true

instance (name : String) : Decidable (PlainName name) :=
  inferInstanceAs (Decidable (name.toList.all Char.isAlphanum = true))

theorem PlainName.ne {name : String} (h : PlainName name) {c d : Char} (hc : c ∈ name.toList)
    (hd : d.isAlphanum = false) : c ≠ d := by
  rintro rfl
  rw [List.all_eq_true.mp h c hc] at hd
  exact Bool.noConfusion hd

theorem PlainName.leadingName {name : String} (h : PlainName name) (rest : List Char) :
    leadingName (name.toList ++ '(' :: rest) = name := by
  have hname (c : Char) (hc : c ∈ name.toList) : (c ≠ ' ' && c ≠ '(') = true := by
    simpa using And.intro (h.ne hc (d := ' ') rfl) (h.ne hc (d := '(') rfl)
  rw [Markup.leadingName, List.takeWhile_append_of_pos hname,
    List.takeWhile_cons_of_neg (by decide), List.append_nil, String.ofList_toList]

/-- The brace ends the list, the blanks go, and the commas that are left separate the names. -/
theorem listedNames_intercalate {names : List String} (hne : names ≠ [])
    (hplain : ∀ name ∈ names, PlainName name) (rest : List Char) :
    listedNames (' ' :: ((", ".intercalate names).toList ++ ' ' :: '\x7d' :: rest)) = names := by
  have hwords : (", ".intercalate names).toList =
      [',', ' '].intercalate (names.map String.toList) := by
    rw [String.toList_intercalate]
    rfl
  have hword (word : List Char) (h : word ∈ names.map String.toList) (c d : Char) (hc : c ∈ word)
      (hd : d.isAlphanum = false) : c ≠ d := by
    obtain ⟨name, hname, rfl⟩ := List.mem_map.mp h
    exact (hplain name hname).ne hc hd
  have hopen (c : Char) (h : c ∈ [',', ' '].intercalate (names.map String.toList)) :
      c ≠ '\x7d' := by
    rcases mem_intercalate_comma h with ⟨word, hmem, hc⟩ | rfl | rfl
    · exact hword word hmem c '\x7d' hc rfl
    · decide
    · decide
  have htake : (' ' :: ([',', ' '].intercalate (names.map String.toList) ++
      ' ' :: '\x7d' :: rest)).takeWhile (· ≠ '\x7d') =
        ' ' :: ([',', ' '].intercalate (names.map String.toList) ++ [' ']) := by
    rw [List.takeWhile_cons_of_pos (by decide), List.takeWhile_append_of_pos (by simpa using hopen),
      List.takeWhile_cons_of_pos (by decide), List.takeWhile_cons_of_neg (by decide)]
  have hfilter : (' ' :: ([',', ' '].intercalate (names.map String.toList) ++ [' '])).filter
      (· ≠ ' ') = [','].intercalate (names.map String.toList) := by
    rw [List.filter_cons_of_neg (by decide), List.filter_append,
      filter_blank_intercalate fun word h c hc => hword word h c ' ' hc rfl]
    simp
  have hsplit : ([','].intercalate (names.map String.toList)).splitOn ',' =
      names.map String.toList :=
    List.splitOn_intercalate ',' (fun word h hc => hword word h ',' ',' hc rfl rfl)
      (by simpa using hne)
  rw [listedNames, hwords, htake, hfilter, hsplit, List.map_map]
  exact List.map_id'' (fun name => String.ofList_toList) names

theorem boundNames_importLine {names : List String} (hne : names ≠ []) (source : String)
    (hplain : ∀ name ∈ names, PlainName name) :
    boundNames (importLine names source) = names := by
  have hline : importLine names source =
      "import \x7b" ++ (" " ++ (", ".intercalate names ++ (" \x7d" ++ (" from " ++ source)))) := by
    simp only [importLine, String.append_assoc]
    rfl
  have hrest : (" " ++ (", ".intercalate names ++ (" \x7d" ++ (" from " ++ source)))).toList =
      ' ' :: ((", ".intercalate names).toList ++ ' ' :: '\x7d' :: (" from " ++ source).toList) := by
    simp only [String.toList_append]
    rfl
  rw [boundNames, hline, after?_append, hrest]
  exact listedNames_intercalate hne hplain _

theorem boundNames_empty : boundNames "" = [] := by decide

/-! ## Indented code -/

mutual

/-- No line of the node is at the margin when the node itself is not. -/
def indented : Markup → Bool
  | line _ | blank | void _ _ | leaf _ _ _ => true
  | sections parts _ => partsIndented parts
  | element _ _ children => allIndented children
  | tallVoid _ attributes => allIndented attributes
  | tallElement _ attributes children => allIndented attributes && allIndented children
  | atDepth own nodes => own != 0 && allIndented nodes

def allIndented : List Markup → Bool
  | [] => true
  | node :: nodes => indented node && allIndented nodes

def partsIndented : List (String × List Markup) → Bool
  | [] => true
  | (_, nodes) :: parts => allIndented nodes && partsIndented parts

end

attribute [local simp] indented allIndented partsIndented

theorem allIndented_iff (nodes : List Markup) :
    allIndented nodes = true ↔ ∀ node ∈ nodes, node.indented = true := by
  induction nodes with
  | nil => simp
  | cons node rest ih => simp [ih]

theorem allIndented_append (nodes more : List Markup) :
    allIndented (nodes ++ more) = (allIndented nodes && allIndented more) := by
  induction nodes with
  | nil => rfl
  | cons node rest ih => rw [List.cons_append, allIndented, allIndented, ih, Bool.and_assoc]

@[simp]
theorem allIndented_lines (texts : List String) : allIndented (texts.map .line) = true := by
  simp [allIndented_iff]

theorem allIndented_intersperse_blank (nodes : List Markup) :
    allIndented (nodes.intersperse .blank) = allIndented nodes := by
  induction nodes with
  | nil => rfl
  | cons node rest ih =>
    cases rest with
    | nil => rfl
    | cons next rest =>
      rw [List.intersperse_cons_cons, allIndented, allIndented, ih]
      rfl

@[simp]
theorem indented_block (head after : String) (nodes : List Markup) :
    (block head nodes after).indented = allIndented nodes := by
  simp [block]

@[simp]
theorem indented_group (head after : String) (nodes : List Markup) :
    (group head nodes after).indented = allIndented nodes := by
  simp [group]

@[simp]
theorem indented_call (function : String) (members : List Markup) :
    (call function members).indented = allIndented members := by
  simp [call]

@[simp]
theorem indented_choice (condition : String) (yes no : List Markup) :
    (choice condition yes no).indented = (allIndented yes && allIndented no) := by
  simp [choice]

mutual

/-- Lines off the margin bind no name. A node at a depth of its own is off it when that depth is. -/
theorem boundNames_lines (depth : Nat) :
    (node : Markup) → node.indented = true → ∀ text ∈ lines (depth + 1) node, boundNames text = []
  | line text, _ => by
    simp [lines, boundNames_indent]
  | blank, _ => by
    simp [lines, boundNames_empty]
  | sections parts last, h => by
    have hparts := boundNames_partLines depth parts (by simpa using h)
    rw [lines, List.forall_mem_append, List.forall_mem_singleton]
    exact ⟨hparts, boundNames_indent depth last⟩
  | void _ _, _ => by
    simp [lines, boundNames_indent]
  | leaf _ _ _, _ => by
    simp [lines, boundNames_indent]
  | element _ _ children, h => by
    have hchildren := boundNames_allLines (depth + 1) children (by simpa using h)
    rw [lines, List.forall_mem_cons, List.forall_mem_append, List.forall_mem_singleton]
    exact ⟨boundNames_indent .., hchildren, boundNames_indent ..⟩
  | tallVoid _ attributes, h => by
    have hattributes := boundNames_allLines (depth + 1) attributes (by simpa using h)
    rw [lines, List.forall_mem_cons, List.forall_mem_append, List.forall_mem_singleton]
    exact ⟨boundNames_indent .., hattributes, boundNames_indent ..⟩
  | tallElement _ attributes children, h => by
    obtain ⟨ha, hc⟩ : allIndented attributes = true ∧ allIndented children = true := by
      simpa using h
    have hattributes := boundNames_allLines (depth + 1) attributes ha
    have hchildren := boundNames_allLines (depth + 1) children hc
    rw [lines, List.forall_mem_cons, List.forall_mem_append, List.forall_mem_append,
      List.forall_mem_append, List.forall_mem_singleton, List.forall_mem_singleton]
    exact ⟨boundNames_indent .., ⟨⟨hattributes, boundNames_indent ..⟩, hchildren⟩,
      boundNames_indent ..⟩
  | atDepth own nodes, h => by
    obtain ⟨hown, hnodes⟩ : own ≠ 0 ∧ allIndented nodes = true := by simpa using h
    obtain ⟨outer, rfl⟩ := Nat.exists_eq_succ_of_ne_zero hown
    exact boundNames_allLines outer nodes hnodes

theorem boundNames_allLines (depth : Nat) :
    (nodes : List Markup) → allIndented nodes = true →
      ∀ text ∈ allLines (depth + 1) nodes, boundNames text = []
  | [], _ => by simp [allLines]
  | node :: nodes, h => by
    obtain ⟨hnode, hnodes⟩ : node.indented = true ∧ allIndented nodes = true := by
      simpa using h
    rw [allLines, List.forall_mem_append]
    exact ⟨boundNames_lines depth node hnode, boundNames_allLines depth nodes hnodes⟩

theorem boundNames_partLines (depth : Nat) :
    (parts : List (String × List Markup)) → partsIndented parts = true →
      ∀ text ∈ partLines (depth + 1) parts, boundNames text = []
  | [], _ => by simp [partLines]
  | (head, nodes) :: parts, h => by
    obtain ⟨hnodes, hparts⟩ : allIndented nodes = true ∧ partsIndented parts = true := by
      simpa using h
    rw [partLines, List.forall_mem_cons, List.forall_mem_append]
    exact ⟨boundNames_indent depth head, boundNames_allLines (depth + 1) nodes hnodes,
      boundNames_partLines depth parts hparts⟩

end

/-! ## Code at the margin -/

/-- The names that the lines of nodes at the margin bind. -/
def marginNames (nodes : List Markup) : List String := (allLines 0 nodes).flatMap boundNames

theorem marginNames_nil : marginNames [] = [] := rfl

theorem marginNames_cons (node : Markup) (nodes : List Markup) :
    marginNames (node :: nodes) = (lines 0 node).flatMap boundNames ++ marginNames nodes := by
  simp [marginNames, allLines]

theorem marginNames_append (nodes more : List Markup) :
    marginNames (nodes ++ more) = marginNames nodes ++ marginNames more := by
  induction nodes with
  | nil => rfl
  | cons node rest ih => simp [marginNames_cons, ih]

theorem indent_zero (text : String) : indent 0 text = text := by
  simp [indent]

theorem marginNames_lines (texts : List String) :
    marginNames (texts.map .line) = texts.flatMap boundNames := by
  induction texts with
  | nil => rfl
  | cons text rest ih =>
    rw [List.map_cons, marginNames_cons, ih, lines, indent_zero, List.flatMap_singleton,
      List.flatMap_cons]

theorem boundNames_sections {head last : String} {nodes : List Markup}
    (hnodes : allIndented nodes = true) (hlast : boundNames last = []) :
    (lines 0 (sections [(head, nodes)] last)).flatMap boundNames = boundNames head := by
  have hinner : (allLines 1 nodes).flatMap boundNames = [] :=
    List.flatMap_eq_nil_iff.mpr (boundNames_allLines 0 nodes hnodes)
  simp [lines, partLines, indent_zero, hinner, hlast]

end Markup

end FormCompiler
