import FormCompiler.Proofs.BoundNames
import Mathlib.Data.List.Count
import Mathlib.Data.List.Nodup

/-! The names that the source of a component binds: those of its imports, those of the components
that it declares, and its own. -/

namespace FormCompiler

open Markup

namespace Widget

def all : List Widget :=
  [button, input, passwordInput, textarea, select, selectContent, selectItem, selectTrigger,
    selectValue, checkbox, radioGroup, radioGroupItem, label, form, formField, formItem, formLabel,
    formControl, formDescription, formMessage, filePreview, eye, eyeOff, cross]

theorem mem_all (w : Widget) : w ∈ all := by cases w <;> decide

theorem name_injective : Function.Injective name := by
  have hnames : (all.map name).Nodup := by decide
  exact fun v w h => List.inj_on_of_nodup_map hnames (mem_all v) (mem_all w) h

theorem name_plain (w : Widget) : PlainName w.name := by
  cases w <;> decide

end Widget

namespace Markup

theorem boundNames_importWidgets {widgets : List Widget} (h : widgets ≠ []) (source : String) :
    boundNames (importWidgets widgets source) = widgets.map Widget.name := by
  refine boundNames_importLine (by simpa using h) source fun name hname => ?_
  obtain ⟨w, -, rfl⟩ := List.mem_map.mp hname
  exact w.name_plain

end Markup

/-- What every component imports besides UI components. -/
def libraryNames : List String := ["useForm", "zodResolver", "z", "useState", "useEffect"]

theorem Widget.name_not_mem_libraryNames (w : Widget) : w.name ∉ libraryNames := by
  cases w <;> decide

theorem map_boundNames_baseImports :
    baseImports.map boundNames =
      [[Widget.button.name], ["useForm"], ["zodResolver"], ["z"], ["useState", "useEffect"]] := by
  have hz : boundNames "import * as z from \"zod\"" = ["z"] := by decide
  rw [baseImports, List.map_cons, List.map_cons, List.map_cons, List.map_cons, List.map_singleton,
    boundNames_importWidgets (by decide), hz, boundNames_importLine (by decide) _ (by decide),
    boundNames_importLine (by decide) _ (by decide),
    boundNames_importLine (by decide) _ (by decide)]
  rfl

theorem boundNames_baseImports :
    baseImports.flatMap boundNames = Widget.button.name :: libraryNames := by
  rw [List.flatMap_def, map_boundNames_baseImports]
  rfl

theorem Primitive.widgets_ne_nil (p : Primitive) : p.widgets ≠ [] := by cases p <;> decide

theorem Primitive.boundNames_line (p : Primitive) :
    boundNames p.line = p.widgets.map Widget.name :=
  boundNames_importWidgets p.widgets_ne_nil p.source

namespace ImportSet

theorem boundNames_lines (s : ImportSet) :
    s.lines.flatMap boundNames =
      Widget.button.name :: libraryNames ++
        (s.primitives.flatMap Primitive.widgets).map Widget.name := by
  rw [lines, List.flatMap_append, boundNames_baseImports, List.flatMap_map, List.map_flatMap]
  simp only [Primitive.boundNames_line]

end ImportSet

namespace Support

@[simp]
theorem bound_passwordInput : passwordInput.bound = [.eye, .eyeOff, .passwordInput] := rfl

@[simp]
theorem bound_filePreview : filePreview.bound = [.cross, .filePreview] := rfl

theorem marginNames_markup {s : Support} (hicons : s.icons ≠ [])
    (hremarks : s.remarks.flatMap boundNames = []) (hbody : allIndented s.body = true) :
    marginNames s.markup = s.bound.map Widget.name := by
  have hhead : boundNames ("function " ++ s.widget.name ++ "(" ++ s.params ++ ")" ++ " \x7b") =
      [s.widget.name] := by
    have hline : "function " ++ s.widget.name ++ "(" ++ s.params ++ ")" ++ " \x7b" =
        "function " ++ (s.widget.name ++ ("(" ++ (s.params ++ (")" ++ " \x7b")))) := by
      simp only [String.append_assoc]
    rw [hline, boundNames_function, String.toList_append, String.toList_append]
    exact congrArg (fun name => [name]) (s.widget.name_plain.leadingName _)
  have hblank : marginNames [.blank] = [] := by decide
  have hdeclared : (lines 0 (block ("function " ++ s.widget.name ++ "(" ++ s.params ++ ")")
      s.body "")).flatMap boundNames = [s.widget.name] := by
    rw [block, boundNames_sections hbody (by decide), hhead]
  have himport : (lines 0 (.line (importWidgets s.icons "'lucide-react'"))).flatMap boundNames =
      s.icons.map Widget.name := by
    rw [lines, indent_zero, List.flatMap_singleton, boundNames_importWidgets hicons]
  rw [markup, marginNames_append, marginNames_append, marginNames_lines, hremarks, hblank,
    marginNames_cons, himport, marginNames_cons, marginNames_cons, hdeclared, hblank, bound,
    List.map_append]
  simp [lines, boundNames_empty]

theorem marginNames_passwordInput :
    marginNames passwordInput.markup = passwordInput.bound.map Widget.name := by
  refine marginNames_markup (by decide) (by decide) ?_
  simp [passwordInput, allIndented, indented]

theorem marginNames_filePreview :
    marginNames filePreview.markup = filePreview.bound.map Widget.name := by
  refine marginNames_markup (by decide) (by decide) ?_
  simp [filePreview, filePreview.load, filePreview.image, filePreview.details,
    filePreview.removeButton, allIndented, indented, partsIndented, guarded]

end Support

namespace FieldBlock

theorem indented_labelled (b : FieldBlock) (attributes : List String) (content : List Markup) :
    (b.labelled attributes content).indented = allIndented content := by
  simp [labelled, wrapper, view, labelLeaf, message, indented, allIndented, allIndented_append]

theorem indented_single (b : FieldBlock) (w : Widget) (attributes : List String) :
    (b.single w attributes).indented = true := by
  rw [single, indented_labelled]
  simp only [allIndented, indented, allIndented_lines, Bool.and_self]

theorem indented_markup (b : FieldBlock) : b.markup.indented = true := by
  rw [markup]
  cases b.control with
  | select options => simp [select, indented_labelled, indented, allIndented, allIndented_iff]
  | checkbox => simp [checkbox, wrapper, view, labelLeaf, message, indented, allIndented]
  | checkboxGroup options =>
    simp [checkboxGroup, groupBox, wrapper, view, handler, labelLeaf, message, indented,
      allIndented, allIndented_iff]
  | radio options =>
    simp [radio, radioItem, indented_labelled, indented, allIndented, allIndented_iff]
  | file => simp [file, wrapper, handler, labelLeaf, message, indented, allIndented]
  | input _ _ | password _ _ | number _ _ | textarea _ _ | date _ => exact indented_single b _ _

end FieldBlock

namespace Plan

/-- The name under which the component itself is exported. -/
def ownName (p : Plan) : String := leadingName (p.componentName ++ "() \x7b").toList

theorem indented_fieldMarkup (p : Plan) : p.fieldMarkup.indented = true := by
  simp [fieldMarkup, spaced, indented, allIndented_intersperse_blank, allIndented_iff,
    FieldBlock.indented_markup]

theorem marginNames_schemaMarkup (p : Plan) : marginNames [p.schemaMarkup] = [] := by
  rw [marginNames_cons, marginNames_nil, schemaMarkup, call,
    boundNames_sections (by simp [allIndented_iff, indented]) (by decide)]
  decide

theorem marginNames_componentMarkup (p : Plan) : marginNames [p.componentMarkup] = [p.ownName] := by
  have hhead : "export default function " ++ p.componentName ++ "()" ++ " \x7b" =
      "export default function " ++ (p.componentName ++ "() \x7b") := by
    simp only [String.append_assoc]
    rfl
  have hnodes : allIndented [p.stateMarkup, .blank,
      block "function onSubmit(data: FormValues)"
        [.line "// Handle form submission", .line "console.log(data)"] "",
      .blank, p.bodyMarkup] = true := by
    simp [stateMarkup, bodyMarkup, indented, allIndented, indented_fieldMarkup, allIndented_iff]
  rw [marginNames_cons, marginNames_nil, List.append_nil, componentMarkup, block,
    boundNames_sections hnodes (by decide), hhead, boundNames_exported]
  rfl

theorem marginNames_support {s : Support} (present : Bool)
    (h : marginNames s.markup = s.bound.map Widget.name) :
    marginNames (s.orBlank present) =
      ((if present then [s] else []).flatMap Support.bound).map Widget.name := by
  cases present with
  | false => rfl
  | true => simpa [Support.orBlank] using h

def lines (p : Plan) : List String := allLines 0 p.markup

def boundNames (p : Plan) : List String := p.lines.flatMap Markup.boundNames

theorem boundNames_eq (p : Plan) :
    p.boundNames = Widget.button.name :: libraryNames ++
      (p.imports.primitives.flatMap Primitive.widgets).map Widget.name ++
      (p.supports.flatMap Support.bound).map Widget.name ++ [p.ownName] := by
  have htype : marginNames [.line "type FormValues = z.infer<typeof formSchema>"] = [] := by decide
  have hblank : marginNames [.blank] = [] := by decide
  have htail : marginNames [p.schemaMarkup, .blank,
      .line "type FormValues = z.infer<typeof formSchema>", .blank, p.componentMarkup] =
        [p.ownName] := by
    have hparts : [p.schemaMarkup, .blank, .line "type FormValues = z.infer<typeof formSchema>",
        .blank, p.componentMarkup] = [p.schemaMarkup] ++ [.blank] ++
          [.line "type FormValues = z.infer<typeof formSchema>"] ++ [.blank] ++
            [p.componentMarkup] := rfl
    simp only [hparts, marginNames_append, marginNames_schemaMarkup, htype, hblank,
      marginNames_componentMarkup, List.nil_append]
  have hmargin : p.boundNames = marginNames p.markup := rfl
  rw [hmargin, markup, marginNames_append, marginNames_append, marginNames_append,
    marginNames_lines, ImportSet.boundNames_lines, htail,
    marginNames_support _ Support.marginNames_passwordInput,
    marginNames_support _ Support.marginNames_filePreview, supports, List.flatMap_append,
    List.map_append]
  simp only [List.append_assoc]

/-- How often a component is bound, apart from the name of the exported one. -/
def bindings (p : Plan) (w : Widget) : Nat := (p.boundNames.erase p.ownName).count w.name

theorem bindings_eq (p : Plan) (w : Widget) : p.bindings w = p.bound.count w := by
  have hlibrary : libraryNames.count w.name = 0 :=
    List.count_eq_zero_of_not_mem w.name_not_mem_libraryNames
  have hbutton : (if Widget.button.name == w.name then 1 else 0) = [Widget.button].count w := by
    rw [List.count_singleton]
    simp [Widget.name_injective.eq_iff]
  have hcount : p.boundNames.count w.name = p.bound.count w + [p.ownName].count w.name := by
    rw [boundNames_eq, bound, List.count_append, List.count_append, List.count_append,
      List.count_cons, hlibrary, List.count_map_of_injective _ _ Widget.name_injective,
      List.count_map_of_injective _ _ Widget.name_injective, List.count_append, List.count_append,
      hbutton, Nat.zero_add]
  rw [bindings, List.count_erase, hcount, List.count_singleton, Nat.add_sub_cancel]

end Plan

end FormCompiler
