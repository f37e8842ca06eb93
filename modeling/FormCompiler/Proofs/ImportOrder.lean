import FormCompiler.Proofs.ComponentBindings

/-! The order of imports. A group is imported where a field first uses it, so fields that follow
change nothing of what is there. Every line of the imports binds a name that no other line binds.
A component declares its own password input and file preview when some field needs them. -/

namespace FormCompiler

open Markup

/-- The groups that a field of the kind uses, its control first. -/
def FieldKind.uses (kind : FieldKind) : List Primitive := [kind.primitive, .label, .formWrapper]

theorem FieldKind.primitive_ne_shared (kind : FieldKind) :
    kind.primitive ≠ .label ∧ kind.primitive ≠ .formWrapper := by
  cases kind <;> decide

/-- Where each line binds a name and none is bound twice, no line comes twice. -/
theorem nodup_of_boundNames {lines : List String} (hbinds : ∀ line ∈ lines, boundNames line ≠ [])
    (hnames : (lines.flatMap boundNames).Nodup) : lines.Nodup := by
  obtain ⟨-, hdisjoint⟩ := List.nodup_flatMap.mp hnames
  refine hdisjoint.imp_of_mem fun {line other} hline _ hdistinct he => ?_
  subst he
  obtain ⟨name, hname⟩ := List.exists_mem_of_ne_nil _ (hbinds line hline)
  exact hdistinct hname hname

namespace ImportSet

variable {s : ImportSet} {seen : List Primitive}

theorem insert_eraseDups (h : s.primitives = seen.eraseDups) (p : Primitive) :
    (s.insert p).2.primitives = (seen ++ [p]).eraseDups := by
  rw [List.eraseDups_append, ← h]
  by_cases hp : p ∈ seen
  · have hmem : p ∈ s.primitives := by rwa [h, List.mem_eraseDups]
    simp [insert, contains, hmem, hp, List.removeAll]
  · have hmem : p ∉ s.primitives := by rwa [h, List.mem_eraseDups]
    simp [insert, contains, hmem, hp, List.removeAll, List.eraseDups_cons]

theorem foldl_insert_eraseDups (h : s.primitives = seen.eraseDups) (uses : List Primitive) :
    (uses.foldl (fun s p => (s.insert p).2) s).primitives = (seen ++ uses).eraseDups := by
  induction uses generalizing s seen with
  | nil => simpa using h
  | cons p rest ih => simpa using ih (insert_eraseDups h p)

theorem ofKinds_primitives (kinds : List FieldKind) :
    (ofKinds kinds).primitives = (kinds.flatMap FieldKind.uses).eraseDups := by
  have hfold : ofKinds kinds =
      (kinds.flatMap FieldKind.uses).foldl (fun s p => (s.insert p).2) {} :=
    List.foldl_flatMap.symm
  have hempty : ({} : ImportSet).primitives = ([] : List Primitive).eraseDups := rfl
  rw [hfold]
  exact foldl_insert_eraseDups hempty _

/-- What further fields import besides is put after what is there. -/
theorem ofKinds_append (kinds more : List FieldKind) :
    (ofKinds (kinds ++ more)).primitives = (ofKinds kinds).primitives ++
      ((more.flatMap FieldKind.uses).removeAll (kinds.flatMap FieldKind.uses)).eraseDups := by
  rw [ofKinds_primitives, ofKinds_primitives, List.flatMap_append, List.eraseDups_append]

theorem ofKinds_append_self (kinds : List FieldKind) : ofKinds (kinds ++ kinds) = ofKinds kinds := by
  have hnew : (kinds.flatMap FieldKind.uses).removeAll (kinds.flatMap FieldKind.uses) = [] := by
    simp [List.removeAll]
  have h := ofKinds_append kinds kinds
  rw [hnew, List.eraseDups_nil, List.append_nil] at h
  exact congrArg ImportSet.mk h

theorem boundNames_ne_nil {line : String} (h : line ∈ s.lines) : boundNames line ≠ [] := by
  rcases List.mem_append.mp h with h | h
  · have hmap := List.mem_map_of_mem (f := boundNames) h
    rw [map_boundNames_baseImports] at hmap
    rintro he
    rw [he] at hmap
    simp at hmap
  · obtain ⟨p, -, rfl⟩ := List.mem_map.mp h
    simpa [Primitive.boundNames_line] using p.widgets_ne_nil

theorem boundNames_lines_nodup (kinds : List FieldKind) :
    ((ofKinds kinds).lines.flatMap boundNames).Nodup := by
  have hwidgets : (((ofKinds kinds).primitives.flatMap Primitive.widgets).map Widget.name).Nodup :=
    (widgets_nodup kinds).map Widget.name_injective
  have hbutton (p : Primitive) : Widget.button ∉ p.widgets :=
    fun h => (p.not_mem_bound h).1 (List.mem_singleton_self _)
  have hlibrary : (Widget.button.name :: libraryNames).Nodup := by decide
  rw [boundNames_lines, List.nodup_append]
  refine ⟨hlibrary, hwidgets, ?_⟩
  rintro name hname _ hmem rfl
  obtain ⟨w, hw, rfl⟩ := List.mem_map.mp hmem
  obtain ⟨p, -, hp⟩ := List.mem_flatMap.mp hw
  rcases List.mem_cons.mp hname with he | hlisted
  · exact hbutton p (Widget.name_injective he ▸ hp)
  · exact w.name_not_mem_libraryNames hlisted

theorem lines_nodup (kinds : List FieldKind) : (ofKinds kinds).lines.Nodup :=
  nodup_of_boundNames (fun _ => boundNames_ne_nil) (boundNames_lines_nodup kinds)

theorem contains_control_iff (kinds : List FieldKind) (kind : FieldKind) :
    (ofKinds kinds).contains kind.primitive = true ↔
      ∃ k ∈ kinds, k.primitive = kind.primitive := by
  obtain ⟨hlabel, hwrapper⟩ := kind.primitive_ne_shared
  rw [contains, List.contains_iff_mem, mem_ofKinds_control_iff hlabel hwrapper]

end ImportSet

namespace Support

/-- The function that the support block declares. -/
def declaration (s : Support) : Markup :=
  block ("function " ++ s.widget.name ++ "(" ++ s.params ++ ")") s.body ""

@[simp]
theorem declaration_ne_line (s : Support) (text : String) : s.declaration ≠ .line text :=
  Markup.noConfusion

@[simp]
theorem line_ne_declaration (s : Support) (text : String) : .line text ≠ s.declaration :=
  Markup.noConfusion

@[simp]
theorem declaration_ne_blank (s : Support) : s.declaration ≠ .blank := Markup.noConfusion

theorem markup_eq (s : Support) : s.markup = [.blank] ++ s.remarks.map .line ++
    [.line (importWidgets s.icons "'lucide-react'"), .blank, s.declaration, .blank] :=
  rfl

theorem declaration_mem_markup (s : Support) : s.declaration ∈ s.markup := by
  simp [markup_eq]

theorem declaration_ne_sections (s : Support) {head last : String} {nodes : List Markup}
    (h : head.toList.head? ≠ some 'f') : s.declaration ≠ .sections [(head, nodes)] last := by
  intro he
  have hhead : "function " ++ s.widget.name ++ "(" ++ s.params ++ ")" ++ " \x7b" = head := by
    simp only [declaration, block, sections.injEq, List.cons.injEq, Prod.mk.injEq] at he
    exact he.1.1.1
  refine h ?_
  rw [← hhead]
  simp

theorem declaration_mem_orBlank_iff {s t : Support} {present : Bool} :
    s.declaration ∈ t.orBlank present ↔ present = true ∧ s.declaration = t.declaration := by
  cases present with
  | false => simp [orBlank]
  | true => simp [orBlank, markup_eq]

theorem declaration_passwordInput_ne : passwordInput.declaration ≠ filePreview.declaration := by
  intro he
  simp only [declaration, block, sections.injEq, List.cons.injEq, Prod.mk.injEq] at he
  exact absurd he.1.1.1 (by decide)

end Support

namespace Plan

theorem declaration_mem_markup_iff {p : Plan} {s : Support} : s.declaration ∈ p.markup ↔
    (p.passwordSupport = true ∧ s.declaration = Support.passwordInput.declaration) ∨
      (p.filePreviewSupport = true ∧ s.declaration = Support.filePreview.declaration) := by
  have hschema : s.declaration ≠ p.schemaMarkup := s.declaration_ne_sections (by simp)
  have hcomponent : s.declaration ≠ p.componentMarkup := s.declaration_ne_sections (by simp)
  have hlines : s.declaration ∉ p.imports.lines.map .line := by simp
  have hrest : s.declaration ∉ [p.schemaMarkup, .blank,
      .line "type FormValues = z.infer<typeof formSchema>", .blank, p.componentMarkup] := by
    simp [hschema, hcomponent]
  rw [markup, List.mem_append, List.mem_append, List.mem_append, or_iff_left hrest,
    or_iff_right hlines, Support.declaration_mem_orBlank_iff, Support.declaration_mem_orBlank_iff]

theorem passwordInput_infix_markup_iff {p : Plan} :
    Support.passwordInput.markup <:+: p.markup ↔ p.passwordSupport = true := by
  constructor
  · intro h
    rcases declaration_mem_markup_iff.mp (h.subset (Support.declaration_mem_markup _)) with h | h
    · exact h.1
    · exact absurd h.2 Support.declaration_passwordInput_ne
  · intro h
    have hblock : Support.passwordInput.orBlank p.passwordSupport =
        Support.passwordInput.markup := if_pos h
    rw [markup, hblock, List.append_assoc]
    exact ⟨_, _, rfl⟩

theorem filePreview_infix_markup_iff {p : Plan} :
    Support.filePreview.markup <:+: p.markup ↔ p.filePreviewSupport = true := by
  constructor
  · intro h
    rcases declaration_mem_markup_iff.mp (h.subset (Support.declaration_mem_markup _)) with h | h
    · exact absurd h.2.symm Support.declaration_passwordInput_ne
    · exact h.1
  · intro h
    have hblock : Support.filePreview.orBlank p.filePreviewSupport =
        Support.filePreview.markup := if_pos h
    rw [markup, hblock]
    exact ⟨_, _, rfl⟩

end Plan

/-- The imports of fields are what the fields use, each group where it is first used, whatever
fields follow. The blocks of the password input and of the file preview are there when a field of
their kind is. -/
theorem ImportSet.first_uses_of_fields (kinds more : List FieldKind) (form : Form) :
    (ofKinds kinds).primitives = (kinds.flatMap FieldKind.uses).eraseDups ∧
    (ofKinds kinds).primitives.Nodup ∧
    (∀ kind : FieldKind, (ofKinds kinds).contains kind.primitive = true ↔
      ∃ k ∈ kinds, k.primitive = kind.primitive) ∧
    (ofKinds kinds).primitives <+: (ofKinds (kinds ++ more)).primitives ∧
    ofKinds (kinds ++ kinds) = ofKinds kinds ∧
    (ofKinds kinds).lines.Nodup ∧
    (Support.passwordInput.markup <:+: form.plan.markup ↔
      ∃ f ∈ form.fields, f.kind = .password) ∧
    (Support.filePreview.markup <:+: form.plan.markup ↔ ∃ f ∈ form.fields, f.kind = .file) := by
  have hprefix : (ofKinds kinds).primitives <+: (ofKinds (kinds ++ more)).primitives := by
    rw [ofKinds_append]
    exact List.prefix_append _ _
  refine ⟨ofKinds_primitives kinds, ofKinds_nodup kinds, contains_control_iff kinds, hprefix,
    ofKinds_append_self kinds, lines_nodup kinds, ?_, ?_⟩
  · rw [Plan.passwordInput_infix_markup_iff, form.plan_passwordSupport, Form.hasKind_iff]
  · have hfile : form.plan.filePreviewSupport = form.hasKind .file := rfl
    rw [Plan.filePreview_infix_markup_iff, hfile, Form.hasKind_iff]

end FormCompiler
