import FormCompiler.Component.Source
import Mathlib.Data.List.Basic

/-! What is shown of a field stays in its block. All else of a generated component is printed around
the block, and it depends on what the fields mean and not on their labels, placeholders and options,
whatever is written in these. -/

namespace FormCompiler

namespace Markup

/-! ## Lines around a hole -/

theorem allLines_append (depth : Nat) (nodes more : List Markup) :
    allLines depth (nodes ++ more) = allLines depth nodes ++ allLines depth more := by
  induction nodes with
  | nil => rfl
  | cons node rest ih => simp [allLines, ih]

/-- In what is printed of the nodes the lines of the hole stand between lines that are always the
same. The hole has a depth of its own. -/
def Frames {α : Type} (depth own : Nat) (nodes hole : α → List Markup) : Prop :=
  ∃ before after, ∀ a, allLines depth (nodes a) = before ++ allLines own (hole a) ++ after

namespace Frames

variable {α β : Type} {depth inner own : Nat} {nodes middle hole : α → List Markup}

theorem refl (depth : Nat) (hole : α → List Markup) : Frames depth depth hole hole :=
  ⟨[], [], fun _ => by simp⟩

theorem atDepth (depth own : Nat) (hole : α → List Markup) :
    Frames depth own (fun a => [.atDepth own (hole a)]) hole :=
  ⟨[], [], fun _ => by simp [allLines, lines]⟩

theorem comap (h : Frames depth own nodes hole) (g : β → α) :
    Frames depth own (fun b => nodes (g b)) fun b => hole (g b) := by
  obtain ⟨before, after, heq⟩ := h
  exact ⟨before, after, fun b => heq (g b)⟩

theorem trans (h : Frames depth inner nodes middle) (h' : Frames inner own middle hole) :
    Frames depth own nodes hole := by
  obtain ⟨before, after, heq⟩ := h
  obtain ⟨front, back, heq'⟩ := h'
  exact ⟨before ++ front, back ++ after, fun a => by simp [heq, heq']⟩

theorem prepend (h : Frames depth own nodes hole) (front : List Markup) :
    Frames depth own (fun a => front ++ nodes a) hole := by
  obtain ⟨before, after, heq⟩ := h
  exact ⟨allLines depth front ++ before, after, fun a => by simp [allLines_append, heq]⟩

theorem cons (h : Frames depth own nodes hole) (first : Markup) :
    Frames depth own (fun a => first :: nodes a) hole :=
  h.prepend [first]

theorem followed {node : α → Markup} (h : Frames depth own (fun a => [node a]) hole)
    (rest : List Markup) : Frames depth own (fun a => node a :: rest) hole := by
  obtain ⟨before, after, heq⟩ := h
  refine ⟨before, after ++ allLines depth rest, fun a => ?_⟩
  have hsplit := allLines_append depth [node a] rest
  rw [heq a, List.append_assoc] at hsplit
  exact hsplit

theorem element (h : Frames (depth + 1) own nodes hole) (tag : Tag) (attributes : List String) :
    Frames depth own (fun a => [.element tag attributes (nodes a)]) hole := by
  obtain ⟨before, after, heq⟩ := h
  exact ⟨indent depth (opening tag attributes ++ ">") :: before,
    after ++ [indent depth (closing tag)], fun a => by simp [allLines, lines, heq]⟩

theorem sections (h : Frames (depth + 1) own nodes hole) (head last : String) :
    Frames depth own (fun a => [.sections [(head, nodes a)] last]) hole := by
  obtain ⟨before, after, heq⟩ := h
  exact ⟨indent depth head :: before, after ++ [indent depth last],
    fun a => by simp [allLines, lines, partLines, heq]⟩

/-- One of several nodes with a line between them. -/
theorem intersperse (depth : Nat) (node : α → Markup) (front back : List Markup) :
    Frames depth depth (fun a => (front ++ node a :: back).intersperse .blank)
      fun a => [node a] := by
  induction front with
  | nil =>
    cases back with
    | nil => exact refl depth fun a => [node a]
    | cons next rest =>
      exact (refl depth fun a => [node a]).followed (.blank :: (next :: rest).intersperse .blank)
  | cons first front ih =>
    have hnext := (ih.cons .blank).cons first
    cases front with
    | nil => simpa using hnext
    | cons second rest => simpa using hnext

end Frames

/-- Texts that stand on lines of their own stay as they are between what is printed before and after
them. -/
theorem exists_intercalate_around (before after : List String) :
    ∃ head tail, ∀ middle : List String, middle ≠ [] →
      "\n".intercalate (before ++ middle ++ after) = head ++ "\n".intercalate middle ++ tail := by
  have hafter : ∃ tail, ∀ middle : List String, middle ≠ [] →
      "\n".intercalate (middle ++ after) = "\n".intercalate middle ++ tail := by
    by_cases ha : after = []
    · exact ⟨"", fun middle _ => by simp [ha]⟩
    · refine ⟨"\n" ++ "\n".intercalate after, fun middle hm => ?_⟩
      rw [String.intercalate_append_of_ne_nil hm ha, String.append_assoc]
  obtain ⟨tail, htail⟩ := hafter
  by_cases hb : before = []
  · exact ⟨"", tail, fun middle hm => by simp [hb, htail middle hm]⟩
  · refine ⟨"\n".intercalate before ++ "\n", tail, fun middle hm => ?_⟩
    have hrest : middle ++ after ≠ [] := by simp [hm]
    rw [List.append_assoc, String.intercalate_append_of_ne_nil hb hrest, htail middle hm,
      String.append_assoc, String.append_assoc, String.append_assoc]

end Markup

open Markup

theorem FieldBlock.exists_markup_eq_wrapper (b : FieldBlock) :
    ∃ shown, b.markup = wrapper b.name shown := by
  rw [markup]
  cases b.control <;> exact ⟨_, rfl⟩

theorem FieldBlock.allLines_markup_ne_nil (b : FieldBlock) : allLines 1 [b.markup] ≠ [] := by
  obtain ⟨shown, hshown⟩ := b.exists_markup_eq_wrapper
  simp [hshown, wrapper, allLines, lines]

namespace Plan

/-- The plan with other blocks in place of its own. -/
def withBlocks (p : Plan) (blocks : List FieldBlock) : Plan := { p with fields := blocks }

/-- From the outside in, to the blocks: the rest of the plan does not change with them. -/
theorem bodyMarkup_frames (p : Plan) (depth : Nat) :
    Frames depth 1 (fun blocks => [(p.withBlocks blocks).bodyMarkup]) spaced := by
  dsimp only [bodyMarkup, withBlocks, group]
  apply Frames.sections
  apply Frames.element
  apply Frames.cons
  apply Frames.cons
  apply Frames.element
  apply Frames.element
  apply Frames.followed
  apply Frames.element
  exact Frames.atDepth _ 1 spaced

theorem markup_frames (p : Plan) :
    Frames 0 1 (fun blocks => (p.withBlocks blocks).markup) spaced := by
  have hbody := p.bodyMarkup_frames 1
  dsimp only [markup, componentMarkup, stateMarkup, schemaMarkup, withBlocks, block] at hbody ⊢
  apply Frames.prepend
  iterate 4 apply Frames.cons
  apply Frames.sections
  iterate 4 apply Frames.cons
  exact hbody

/-- The source of a plan is the text of a block between two texts that do not depend on the block. -/
theorem exists_source_around (p : Plan) (front back : List FieldBlock) :
    ∃ before after, ∀ b : FieldBlock,
      (p.withBlocks (front ++ b :: back)).source = before ++ b.text ++ after := by
  have hblock : Frames 1 1 (fun b : FieldBlock => spaced (front ++ b :: back))
      fun b => [b.markup] := by
    simpa [spaced] using Frames.intersperse 1 FieldBlock.markup (front.map FieldBlock.markup)
      (back.map FieldBlock.markup)
  obtain ⟨above, below, hlines⟩ :=
    (p.markup_frames.comap fun b : FieldBlock => front ++ b :: back).trans hblock
  obtain ⟨head, tail, htext⟩ := exists_intercalate_around above below
  refine ⟨head, tail ++ "\n", fun b => ?_⟩
  have hown : b.text = "\n".intercalate (allLines 1 [b.markup]) := by
    simp [FieldBlock.text, print, allLines, lines]
  rw [source, print, hlines, htext _ b.allLines_markup_ne_nil, hown, String.append_assoc,
    String.append_assoc]

end Plan

/-! ## What a field means -/

/-- The fields differ at most in their ids and in what is shown of them. -/
structure Field.SameMeaning (f g : Field) : Prop where
  kind : f.kind = g.kind
  name : f.name = g.name
  required : f.required = g.required
  minLength : f.minLength = g.minLength
  maxLength : f.maxLength = g.maxLength
  min : f.min = g.min
  max : f.max = g.max
  valueType : f.valueType = g.valueType

namespace Field.SameMeaning

variable {f g : Field}

theorem rule_eq (h : f.SameMeaning g) : f.rule = g.rule := by
  simp only [rule, h.kind, h.required, h.minLength, h.maxLength, h.min, h.max, h.valueType]

theorem defaultValue_eq (h : f.SameMeaning g) : f.defaultValue = g.defaultValue := by
  simp only [defaultValue, h.kind, h.required, h.min]

end Field.SameMeaning

namespace Form

/-- The forms differ at most in what one field of each shows, at an index. -/
structure SameBut (form other : Form) (i : Nat) (f g : Field) : Prop where
  name : form.name = other.name
  layout : form.layout = other.layout
  field : form.fields[i]? = some f
  otherField : other.fields[i]? = some g
  shown : f.SameMeaning g
  rest : ∀ j, j ≠ i → form.fields[j]? = other.fields[j]?

variable {form other : Form} {i : Nat} {f g : Field}

theorem SameBut.split (h : form.SameBut other i f g) :
    ∃ front back, form.fields = front ++ f :: back ∧ other.fields = front ++ g :: back := by
  obtain ⟨hlt, hf⟩ := List.getElem?_eq_some_iff.mp h.field
  have hsplit (a : Field) : form.fields.set i a =
      form.fields.take i ++ a :: form.fields.drop (i + 1) := by
    rw [List.set_eq_take_append_cons_drop, if_pos hlt]
  have hform : form.fields = form.fields.set i f := by rw [← hf, List.set_getElem_self]
  have hother : other.fields = form.fields.set i g := by
    apply List.ext_getElem?
    intro j
    by_cases hj : j = i
    · rw [hj, h.otherField, List.getElem?_set_self hlt]
    · rw [← h.rest j hj, List.getElem?_set_ne (Ne.symm hj)]
  exact ⟨_, _, hform.trans (hsplit f), hother.trans (hsplit g)⟩

/-- What the fields mean decides all of the plan but their blocks. -/
theorem SameBut.plan_eq (h : form.SameBut other i f g) :
    other.plan = form.plan.withBlocks (other.fields.map Field.block) := by
  obtain ⟨front, back, hf, hg⟩ := h.split
  have hkinds : other.fields.map Field.kind = form.fields.map Field.kind := by
    simp [hf, hg, h.shown.kind]
  have hfiles : other.hasKind .file = form.hasKind .file := by
    simp [hasKind, hf, hg, h.shown.kind]
  have hschema : (other.fields.map fun f => (⟨f.name, f.rule.expr⟩ : ExprEntry)) =
      form.fields.map fun f => ⟨f.name, f.rule.expr⟩ := by
    simp [hf, hg, h.shown.name, h.shown.rule_eq]
  have hdefaults : (other.fields.map fun f => (⟨f.name, f.defaultValue⟩ : DefaultEntry)) =
      form.fields.map fun f => ⟨f.name, f.defaultValue⟩ := by
    simp [hf, hg, h.shown.name, h.shown.defaultValue_eq]
  simp only [plan, Plan.withBlocks, hkinds, hfiles, hschema, hdefaults, h.name, h.layout]

/-- What is shown of one field changes nothing of the source but the text of its block, whatever is
written there. -/
theorem shown_text_stays_in_block (h : form.SameBut other i f g) :
    ∃ before after, form.emit = .source (before ++ f.block.text ++ after) ∧
      other.emit = .source (before ++ g.block.text ++ after) := by
  obtain ⟨front, back, hf, hg⟩ := h.split
  obtain ⟨before, after, hsource⟩ :=
    form.plan.exists_source_around (front.map Field.block) (back.map Field.block)
  have hform : form.plan =
      form.plan.withBlocks (front.map Field.block ++ f.block :: back.map Field.block) := by
    simp [plan, Plan.withBlocks, hf]
  have hother : other.plan =
      form.plan.withBlocks (front.map Field.block ++ g.block :: back.map Field.block) := by
    simp [h.plan_eq, hg]
  refine ⟨before, after, ?_, ?_⟩
  · rw [← hsource, ← hform, emit, if_neg (by simp [hf])]
  · rw [← hsource, ← hother, emit, if_neg (by simp [hg])]

/-- A label, a placeholder and options that read like parts of a template or of a component. -/
theorem shown_text_stays_in_block_braces :
    let day : Field :=
      { id := "element-1", kind := .date, label := "Day", name := "day", disablePastDates := true }
    let color := Field.withDefaults .select 2
    let odd : Field :=
      { color with
        id := "x", label := "\x7b\x7btitle\x7d\x7d</FormLabel>\nimport",
        placeholder := some "\"", options := some [⟨"\x7b\x7b/each\x7d\x7d", "\" />"⟩],
        step := some .one, rows := some 7, disablePastDates := true, disableFutureDates := true }
    let form : Form := { fields := [day, color] }
    let other : Form := { fields := [day, odd] }
    form.SameBut other 1 color odd ∧
      ∃ before after, form.emit = .source (before ++ color.block.text ++ after) ∧
        other.emit = .source (before ++ odd.block.text ++ after) := by
  intro day color odd form other
  have h : form.SameBut other 1 color odd := by
    refine ⟨rfl, rfl, rfl, rfl, ⟨rfl, rfl, rfl, rfl, rfl, rfl, rfl, rfl⟩, fun j hj => ?_⟩
    match j, hj with
    | 0, _ => rfl
    | 1, hj => exact absurd rfl hj
    | j + 2, _ => rfl
  exact ⟨h, shown_text_stays_in_block h⟩

end Form

end FormCompiler
