import FormCompiler.Component.Source
import Mathlib.Tactic.Tauto

/-! The UI components that a generated component opens. They are found in the markup, so texts of
the form that look like elements are not taken for any. -/

namespace FormCompiler

open Markup

variable {w : Widget}

namespace Markup

attribute [local simp] opened allOpened partsOpened

theorem mem_allOpened_iff {nodes : List Markup} :
    w ∈ allOpened nodes ↔ ∃ node ∈ nodes, w ∈ node.opened := by
  induction nodes with
  | nil => simp
  | cons node rest ih => simp [ih]

theorem allOpened_append (nodes more : List Markup) :
    allOpened (nodes ++ more) = allOpened nodes ++ allOpened more := by
  induction nodes with
  | nil => rfl
  | cons node rest ih => rw [List.cons_append, allOpened, allOpened, ih, List.append_assoc]

@[simp]
theorem allOpened_lines (texts : List String) : allOpened (texts.map .line) = [] := by
  simp [List.eq_nil_iff_forall_not_mem, mem_allOpened_iff]

theorem allOpened_intersperse_blank (nodes : List Markup) :
    allOpened (nodes.intersperse .blank) = allOpened nodes := by
  induction nodes with
  | nil => rfl
  | cons node rest ih =>
    cases rest with
    | nil => rfl
    | cons next rest =>
      rw [List.intersperse_cons_cons, allOpened, allOpened, ih]
      rfl

@[simp]
theorem opened_block (head after : String) (nodes : List Markup) :
    (block head nodes after).opened = allOpened nodes := by
  simp [block]

@[simp]
theorem opened_group (head after : String) (nodes : List Markup) :
    (group head nodes after).opened = allOpened nodes := by
  simp [group]

@[simp]
theorem opened_call (function : String) (members : List Markup) :
    (call function members).opened = allOpened members := by
  simp [call]

@[simp]
theorem opened_choice (condition : String) (yes no : List Markup) :
    (choice condition yes no).opened = allOpened yes ++ allOpened no := by
  simp [choice]

/-- The line begins with the tag of a component. -/
def Opens (w : Widget) (text : String) : Prop :=
  ∃ depth rest, text = indent depth ("<" ++ w.name ++ rest)

theorem opens_opening (depth : Nat) {tag : Tag} (attributes : List String) (rest : String)
    (h : w ∈ Tag.widgets tag) : Opens w (indent depth (opening tag attributes ++ rest)) := by
  cases tag with
  | html name => exact absurd h List.not_mem_nil
  | widget v =>
    obtain rfl := List.mem_singleton.mp h
    cases attributes with
    | nil => exact ⟨depth, rest, by simp [opening, Tag.name]⟩
    | cons a more =>
      refine ⟨depth, " " ++ " ".intercalate (a :: more) ++ rest, ?_⟩
      rw [opening, String.intercalate_cons_cons]
      simp only [Tag.name, String.append_assoc]

theorem opens_opening_nil (depth : Nat) {tag : Tag} (h : w ∈ Tag.widgets tag) :
    Opens w (indent depth (opening tag [])) := by
  have hopens := opens_opening depth [] "" h
  rwa [String.append_empty] at hopens

mutual

/-- What a node opens stands at the beginning of one of its lines. -/
theorem exists_opens_lines (depth : Nat) :
    (node : Markup) → w ∈ node.opened → ∃ text ∈ lines depth node, Opens w text
  | line _, h | blank, h => absurd h List.not_mem_nil
  | sections parts _, h => by
    obtain ⟨text, htext, hopens⟩ := exists_opens_partLines depth parts h
    exact ⟨text, List.mem_append_left _ htext, hopens⟩
  | void _ attributes, h =>
    ⟨_, List.mem_singleton_self _, opens_opening depth attributes " />" h⟩
  | leaf _ attributes _, h => by
    refine ⟨_, List.mem_singleton_self _, ?_⟩
    rw [String.append_assoc, String.append_assoc]
    exact opens_opening depth attributes _ h
  | element _ attributes children, h => by
    rcases List.mem_append.mp h with h | h
    · exact ⟨_, List.mem_cons_self, opens_opening depth attributes ">" h⟩
    · obtain ⟨text, htext, hopens⟩ := exists_opens_allLines (depth + 1) children h
      exact ⟨text, List.mem_cons_of_mem _ (List.mem_append_left _ htext), hopens⟩
  | tallVoid _ attributes, h => by
    rcases List.mem_append.mp h with h | h
    · exact ⟨_, List.mem_cons_self, opens_opening_nil depth h⟩
    · obtain ⟨text, htext, hopens⟩ := exists_opens_allLines (depth + 1) attributes h
      exact ⟨text, List.mem_cons_of_mem _ (List.mem_append_left _ htext), hopens⟩
  | tallElement _ attributes children, h => by
    rcases List.mem_append.mp h with h | h
    · rcases List.mem_append.mp h with h | h
      · exact ⟨_, List.mem_cons_self, opens_opening_nil depth h⟩
      · obtain ⟨text, htext, hopens⟩ := exists_opens_allLines (depth + 1) attributes h
        refine ⟨text, List.mem_cons_of_mem _ ?_, hopens⟩
        exact List.mem_append_left _ (List.mem_append_left _ (List.mem_append_left _ htext))
    · obtain ⟨text, htext, hopens⟩ := exists_opens_allLines (depth + 1) children h
      refine ⟨text, List.mem_cons_of_mem _ ?_, hopens⟩
      exact List.mem_append_left _ (List.mem_append_right _ htext)
  | atDepth own nodes, h => exists_opens_allLines own nodes h

theorem exists_opens_allLines (depth : Nat) :
    (nodes : List Markup) → w ∈ allOpened nodes → ∃ text ∈ allLines depth nodes, Opens w text
  | [], h => absurd h List.not_mem_nil
  | node :: nodes, h => by
    rcases List.mem_append.mp h with h | h
    · obtain ⟨text, htext, hopens⟩ := exists_opens_lines depth node h
      exact ⟨text, List.mem_append_left _ htext, hopens⟩
    · obtain ⟨text, htext, hopens⟩ := exists_opens_allLines depth nodes h
      exact ⟨text, List.mem_append_right _ htext, hopens⟩

theorem exists_opens_partLines (depth : Nat) :
    (parts : List (String × List Markup)) → w ∈ partsOpened parts →
      ∃ text ∈ partLines depth parts, Opens w text
  | [], h => absurd h List.not_mem_nil
  | (_, nodes) :: parts, h => by
    rcases List.mem_append.mp h with h | h
    · obtain ⟨text, htext, hopens⟩ := exists_opens_allLines (depth + 1) nodes h
      exact ⟨text, List.mem_cons_of_mem _ (List.mem_append_left _ htext), hopens⟩
    · obtain ⟨text, htext, hopens⟩ := exists_opens_partLines depth parts h
      exact ⟨text, List.mem_cons_of_mem _ (List.mem_append_right _ htext), hopens⟩

end

end Markup

namespace FieldBlock

variable {b : FieldBlock}

@[simp]
theorem opened_wrapper (name : String) (shown : Markup) :
    (wrapper name shown).opened = .formField :: shown.opened := by
  simp [wrapper, opened, allOpened, Tag.widgets]

@[simp]
theorem opened_labelLeaf (b : FieldBlock) : b.labelLeaf.opened = [.formLabel] := rfl

@[simp]
theorem opened_message : message.opened = [.formMessage] := rfl

theorem mem_opened_labelled {attributes : List String} {content : List Markup}
    (h : w ∈ (b.labelled attributes content).opened) :
    w ∈ Primitive.formWrapper.widgets ∨ w ∈ allOpened content := by
  have hparts : w = .formField ∨ w = .formItem ∨ w = .formLabel ∨ w ∈ allOpened content ∨
      w = .formMessage := by
    simpa [labelled, view, opened, allOpened, allOpened_append, Tag.widgets] using h
  rcases hparts with rfl | rfl | rfl | hcontent | rfl
  case inr.inr.inr.inl => exact Or.inr hcontent
  all_goals exact Or.inl (by decide)

theorem mem_opened_single_iff {control : Widget} {attributes : List String} :
    w ∈ (b.single control attributes).opened ↔
      w ∈ [.formField, .formItem, .formLabel, .formControl, control, .formMessage] := by
  simp only [single, labelled, opened_wrapper, view, opened_group, allOpened, opened, Tag.widgets,
    List.cons_append, opened_labelLeaf, opened_message, allOpened_lines, List.nil_append,
    List.append_nil]

theorem mem_opened_single {control : Widget} {attributes : List String}
    (h : w ∈ (b.single control attributes).opened) :
    w ∈ Primitive.formWrapper.widgets ∨ w = control := by
  rw [mem_opened_single_iff] at h
  simp [Primitive.widgets] at h ⊢
  tauto

theorem mem_opened_select {options : List FieldOption} (h : w ∈ (b.select options).opened) :
    w ∈ Primitive.formWrapper.widgets ∨ w ∈ Primitive.select.widgets := by
  rcases mem_opened_labelled h with h | h
  · exact Or.inl h
  · simp [allOpened, opened, Tag.widgets, mem_allOpened_iff] at h
    simp [Primitive.widgets]
    tauto

theorem mem_opened_checkbox (h : w ∈ b.checkbox.opened) :
    w ∈ Primitive.formWrapper.widgets ∨ w ∈ Primitive.checkbox.widgets := by
  simp [checkbox, view, opened, allOpened, Tag.widgets] at h
  simp [Primitive.widgets]
  tauto

theorem mem_opened_checkboxGroup {options : List FieldOption}
    (h : w ∈ (b.checkboxGroup options).opened) :
    w ∈ Primitive.formWrapper.widgets ∨ w ∈ Primitive.checkbox.widgets := by
  simp [checkboxGroup, groupBox, view, handler, opened, allOpened, Tag.widgets, mem_allOpened_iff]
    at h
  simp [Primitive.widgets]
  tauto

theorem mem_opened_radio {options : List FieldOption} (h : w ∈ (b.radio options).opened) :
    w ∈ Primitive.formWrapper.widgets ∨ w ∈ Primitive.radioGroup.widgets := by
  rcases mem_opened_labelled h with h | h
  · exact Or.inl h
  · simp [radioItem, allOpened, opened, Tag.widgets, mem_allOpened_iff] at h
    simp [Primitive.widgets]
    tauto

theorem mem_opened_file (h : w ∈ b.file.opened) :
    w ∈ Primitive.formWrapper.widgets ∨ w = .input ∨ w = .filePreview := by
  simp [file, handler, opened, allOpened, Tag.widgets] at h
  simp [Primitive.widgets]
  tauto

end FieldBlock

namespace Field

/-- A field opens what every field has around its control, its control, and a preview of a file. -/
theorem mem_opened {f : Field} (h : w ∈ f.block.markup.opened) :
    w ∈ Primitive.formWrapper.widgets ∨ w ∈ f.kind.primitive.widgets ∨
      (f.kind = .file ∧ w = .filePreview) := by
  rw [block, FieldBlock.markup, control] at h
  cases hkind : f.kind <;> rw [hkind] at h <;> simp only at h
  case select => exact (FieldBlock.mem_opened_select h).imp_right Or.inl
  case checkbox => exact (FieldBlock.mem_opened_checkbox h).imp_right Or.inl
  case checkboxGroup => exact (FieldBlock.mem_opened_checkboxGroup h).imp_right Or.inl
  case radio => exact (FieldBlock.mem_opened_radio h).imp_right Or.inl
  case file =>
    rcases FieldBlock.mem_opened_file h with h | rfl | rfl
    · exact Or.inl h
    · exact Or.inr (Or.inl (by decide))
    · exact Or.inr (Or.inr ⟨rfl, rfl⟩)
  all_goals
    rcases FieldBlock.mem_opened_single h with h | rfl
    · exact Or.inl h
    · exact Or.inr (Or.inl (by decide))

theorem passwordInput_mem_opened {f : Field} (h : f.kind = .password) :
    .passwordInput ∈ f.block.markup.opened := by
  have hcontrol : f.block.control =
      .password (f.placeholder.getD "") f.lengthAttributes := by
    simp [block, control, h]
  rw [FieldBlock.markup, hcontrol]
  exact FieldBlock.mem_opened_single_iff.mpr (by decide)

end Field

namespace Support

theorem mem_opened_passwordInput :
    w ∈ allOpened passwordInput.body ↔ w = .input ∨ w = .button ∨ w = .eyeOff ∨ w = .eye := by
  simp [passwordInput, opened, allOpened, Tag.widgets]

theorem mem_opened_filePreview :
    w ∈ allOpened filePreview.body ↔ w = .button ∨ w = .cross := by
  simp [filePreview, filePreview.load, filePreview.image, filePreview.details,
    filePreview.removeButton, guarded, opened, allOpened, partsOpened, Tag.widgets]
  tauto

theorem opened_orBlank (s : Support) (present : Bool) :
    allOpened (s.orBlank present) = if present then allOpened s.body else [] := by
  cases present with
  | false => rfl
  | true => simp [orBlank, markup, allOpened, allOpened_append, opened]

end Support

namespace Plan

def opened (p : Plan) : List Widget := allOpened p.markup

theorem mem_opened_iff {p : Plan} :
    w ∈ p.opened ↔
      (p.passwordSupport = true ∧ (w = .input ∨ w = .button ∨ w = .eyeOff ∨ w = .eye)) ∨
      (p.filePreviewSupport = true ∧ (w = .button ∨ w = .cross)) ∨
      w = .form ∨ (∃ b ∈ p.fields, w ∈ b.markup.opened) ∨ w = .button := by
  have hschema : p.schemaMarkup.opened = [] := by
    simp [schemaMarkup, List.eq_nil_iff_forall_not_mem, mem_allOpened_iff, Markup.opened]
  have hstate : p.stateMarkup.opened = [] := by
    simp [stateMarkup, List.eq_nil_iff_forall_not_mem, mem_allOpened_iff, Markup.opened]
  have hfields : w ∈ p.fieldMarkup.opened ↔ ∃ b ∈ p.fields, w ∈ b.markup.opened := by
    simp [fieldMarkup, spaced, Markup.opened, allOpened_intersperse_blank, mem_allOpened_iff]
  have hcomponent : w ∈ p.componentMarkup.opened ↔
      w = .form ∨ w ∈ p.fieldMarkup.opened ∨ w = .button := by
    simp [componentMarkup, hstate, bodyMarkup, Markup.opened, allOpened, Tag.widgets]
  have hpassword : w ∈ allOpened (Support.passwordInput.orBlank p.passwordSupport) ↔
      p.passwordSupport = true ∧ (w = .input ∨ w = .button ∨ w = .eyeOff ∨ w = .eye) := by
    rw [Support.opened_orBlank, ← Support.mem_opened_passwordInput, List.mem_ite_nil_right]
  have hpreview : w ∈ allOpened (Support.filePreview.orBlank p.filePreviewSupport) ↔
      p.filePreviewSupport = true ∧ (w = .button ∨ w = .cross) := by
    rw [Support.opened_orBlank, ← Support.mem_opened_filePreview, List.mem_ite_nil_right]
  rw [opened, markup, allOpened_append, allOpened_append, allOpened_append, allOpened_lines,
    List.nil_append, List.mem_append, List.mem_append, hpassword, hpreview, or_assoc, ← hfields,
    ← hcomponent]
  simp [allOpened, hschema, Markup.opened]

end Plan

end FormCompiler
