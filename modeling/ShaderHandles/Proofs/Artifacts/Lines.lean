import ShaderHandles.Proofs.Registry.WellFormed
import ShaderHandles.Proofs.Shader.Place
import ShaderHandles.Proofs.Text.Lines

/-!
# The artifacts line by line

With the default settings no line of a well-formed registry's artifacts holds a line end, so each text
is taken apart into the lines that it was written from. The lines of the container and of the two
routines begin with blanks.

* `Registry.WellFormed.linesOf_interface`, `Registry.WellFormed.linesOf_implementation`: the lines of
  the two texts.
-/

namespace ShaderHandles

open Text (IsLine Indented)

/-! ## Lines that declare a shader -/

theorem indented_member : Indented Indent.member := ⟨rfl, by decide⟩

theorem indented_field : Indented Indent.field := ⟨rfl, by decide⟩

theorem indented_nested : Indented Indent.nested := ⟨rfl, by decide⟩

theorem indented_handles {indent : String} {names : List String} (hIndent : Indented indent)
    (hNames : ∀ name ∈ names, C.isIdentifier name = true) :
    ∀ line ∈ names.map (({} : Api).handleDeclaration indent), Indented line := by
  intro line hLine
  obtain ⟨name, hName, rfl⟩ := List.mem_map.mp hLine
  have hNameLine := IsLine.of_isIdentifier (hNames name hName)
  rw [Api.handleDeclaration, String.append_assoc, String.append_assoc, String.append_assoc]
  apply hIndent.append
  simp only [IsLine.append_iff, hNameLine, true_and]
  decide

/-- The lines of a struct are indented if those inside are. -/
theorem indented_struct {indent name : String} {inner : List String} (hIndent : Indented indent)
    (hName : C.isIdentifier name = true) (hInner : ∀ line ∈ inner, Indented line) :
    ∀ line ∈ (indent ++ "struct \x7b") :: inner ++ [indent ++ "\x7d " ++ name ++ ";"],
      Indented line := by
  have hNameLine := IsLine.of_isIdentifier hName
  intro line hLine
  rw [List.mem_append, List.mem_cons, List.mem_singleton] at hLine
  rcases hLine with (rfl | hLine) | rfl
  · exact hIndent.append (by decide)
  · exact hInner line hLine
  · rw [String.append_assoc, String.append_assoc]
    apply hIndent.append
    simp only [IsLine.append_iff, hNameLine, true_and]
    decide

namespace GeneralShader.WellFormed

variable {shader : GeneralShader}

theorem indented_group {group : SubroutineGroup} (h : shader.WellFormed)
    (hGroup : group ∈ shader.groups) : ∀ line ∈ group.declaration {}, Indented line :=
  indented_struct indented_field (h.isIdentifier_groupName hGroup)
    (indented_handles indented_nested (h.isIdentifier_of_mem_group hGroup))

theorem indented_declaration (h : shader.WellFormed) :
    ∀ line ∈ shader.declaration {}, Indented line := by
  have hInner : ∀ line ∈ (Field.programMember :: (shader.attributes ++ shader.uniforms)).map
      (({} : Api).handleDeclaration Indent.field) ++
        shader.groups.flatMap (SubroutineGroup.declaration {}), Indented line := by
    intro line hLine
    rcases List.mem_append.mp hLine with hLine | hLine
    · exact indented_handles indented_field h.isIdentifier_of_mem_plain line hLine
    · obtain ⟨group, hGroup, hLine⟩ := List.mem_flatMap.mp hLine
      exact h.indented_group hGroup line hLine
  have hAll := indented_struct indented_member h.name hInner
  rwa [← List.cons_append] at hAll

/-! ## Lines of the routines -/

theorem isLine_path {field : Field} (h : shader.WellFormed) (hField : field ∈ shader.fields) :
    IsLine field.path := by
  have hNames := fun name hName =>
    IsLine.of_isIdentifier (h.isIdentifier_of_mem_names hField name hName)
  have hPair {group member : String} (hGroup : IsLine group) (hMember : IsLine member) :
      IsLine (Field.groupPath group member) := by
    simp only [Field.groupPath, IsLine.append_iff, hGroup, hMember, true_and, and_true]
    decide
  cases field with
  | program => decide
  | vertexAttribute name => exact hNames name List.mem_cons_self
  | uniform name => exact hNames name List.mem_cons_self
  | selector group => exact hPair (hNames group List.mem_cons_self) (by decide)
  | variant group name =>
    exact hPair (hNames group List.mem_cons_self)
      (hNames name (List.mem_cons_of_mem _ List.mem_cons_self))

theorem isLine_place {field : Field} (h : shader.WellFormed) (hField : field ∈ shader.fields) :
    IsLine (({} : Layout).place shader.name field.path) := by
  have hName := IsLine.of_isIdentifier h.name
  simp only [Layout.place, IsLine.append_iff, hName, h.isLine_path hField, and_true]
  decide

theorem isLine_call {field : Field} (h : shader.WellFormed) (hField : field ∈ shader.fields) :
    IsLine (shader.call {} field) := by
  have hProgram : IsLine (({} : Layout).programOf shader.name) := by
    rw [Layout.programOf_eq]
    exact h.isLine_place shader.program_mem_fields
  have hVertex := IsLine.of_isQuotable h.vertexPath
  have hFragment := IsLine.of_isQuotable h.fragmentPath
  have hNames := fun name hName =>
    IsLine.of_isIdentifier (h.isIdentifier_of_mem_names hField name hName)
  cases field with
  | program =>
    simp only [call, C.quote, IsLine.append_iff, hVertex, hFragment, and_true]
    decide
  | vertexAttribute name =>
    have hName := hNames name List.mem_cons_self
    simp only [call, call.lookup, C.quote, IsLine.append_iff, hProgram, hName, and_true]
    decide
  | uniform name =>
    have hName := hNames name List.mem_cons_self
    simp only [call, call.lookup, C.quote, IsLine.append_iff, hProgram, hName, and_true]
    decide
  | selector group =>
    have hName := hNames group List.mem_cons_self
    simp only [call, call.stageLookup, C.quote, IsLine.append_iff, hProgram, hName, and_true]
    decide
  | variant group name =>
    have hName := hNames name (List.mem_cons_of_mem _ List.mem_cons_self)
    simp only [call, call.stageLookup, C.quote, IsLine.append_iff, hProgram, hName, and_true]
    decide

theorem indented_loadStatement {indent : String} {field : Field} (h : shader.WellFormed)
    (hField : field ∈ shader.fields) (hIndent : Indented indent) :
    Indented (shader.loadStatement {} indent field) := by
  have hPlace := h.isLine_place hField
  have hCall := h.isLine_call hField
  rw [loadStatement, String.append_assoc, String.append_assoc, String.append_assoc]
  apply hIndent.append
  simp only [IsLine.append_iff, hPlace, hCall, true_and]
  decide

theorem indented_loadLines (h : shader.WellFormed) :
    ∀ line ∈ shader.loadLines {}, Indented line := by
  intro line hLine
  rcases List.mem_append.mp hLine with hLine | hLine
  · obtain ⟨field, hField, rfl⟩ := List.mem_map.mp hLine
    exact h.indented_loadStatement (List.mem_append_left _ hField) indented_member
  · unfold guardedLines at hLine
    split at hLine
    · exact absurd hLine List.not_mem_nil
    · rw [List.mem_append, List.mem_cons, List.mem_singleton] at hLine
      rcases hLine with (rfl | hLine) | rfl
      · exact ⟨rfl, by decide⟩
      · obtain ⟨field, hField, rfl⟩ := List.mem_map.mp hLine
        exact h.indented_loadStatement (List.mem_append_right _ hField) indented_field
      · exact ⟨rfl, by decide⟩

end GeneralShader.WellFormed

namespace Shader

variable {shader : Shader}

theorem indented_declaration (h : shader.expand.WellFormed) :
    ∀ line ∈ shader.declaration {}, Indented line := by
  cases shader with
  | general shader => exact h.indented_declaration
  | simple shader =>
    have hName : IsLine shader.name := .of_isIdentifier h.name
    intro line hLine
    rw [List.mem_singleton.mp hLine, String.append_assoc, String.append_assoc, String.append_assoc]
    apply indented_member.append
    simp only [IsLine.append_iff, hName, true_and]
    decide

theorem indented_loadLines (h : shader.expand.WellFormed) :
    ∀ line ∈ shader.loadLines {}, Indented line :=
  h.indented_loadLines

theorem indented_releaseLine (h : shader.expand.WellFormed) : Indented (shader.releaseLine {}) := by
  have hProgram : IsLine (({} : Layout).programOf shader.name) := by
    rw [Layout.programOf_eq, ← shader.expand_name]
    exact h.isLine_place shader.expand.program_mem_fields
  rw [releaseLine, String.append_assoc, String.append_assoc, String.append_assoc]
  apply indented_member.append
  simp only [IsLine.append_iff, hProgram, true_and]
  decide

end Shader

/-! ## Lines of the texts -/

namespace Registry.WellFormed

variable {registry : Registry}

theorem indented_declarations (h : registry.WellFormed) :
    ∀ line ∈ registry.toList.flatMap (Shader.declaration {}), Indented line := by
  intro line hLine
  obtain ⟨shader, hShader, hLine⟩ := List.mem_flatMap.mp hLine
  exact Shader.indented_declaration (h.shader shader hShader) line hLine

/-- The lines of a block, of which none is empty. -/
theorem indented_loadLines (h : registry.WellFormed) :
    ∀ block ∈ registry.toList.map (Shader.loadLines {}), ∀ line ∈ block, Indented line := by
  intro block hBlock
  obtain ⟨shader, hShader, rfl⟩ := List.mem_map.mp hBlock
  exact Shader.indented_loadLines (h.shader shader hShader)

theorem isLine_interfaceOpening : ∀ line ∈ ({} : Settings).interfaceOpening, IsLine line := by
  simp only [Settings.interfaceOpening, SimpleShader.sharedMembers, SimpleShader.attributes,
    SimpleShader.uniforms, Api.handleDeclaration, List.map_cons, List.map_nil, List.cons_append,
    List.nil_append, List.forall_mem_cons, IsLine, String.toList_append]
  repeat rw [String.toList_ofList]
  decide

theorem isLine_interfaceClosing : ∀ line ∈ ({} : Settings).interfaceClosing, IsLine line := by
  simp only [Settings.interfaceClosing, Settings.lifecycleComment, List.cons_append,
    List.nil_append, List.forall_mem_cons, IsLine, String.toList_append]
  repeat rw [String.toList_ofList]
  decide

theorem isLine_implementationOpening :
    ∀ line ∈ ({} : Settings).implementationOpening, IsLine line := by
  simp only [Settings.implementationOpening, List.map_cons, List.map_nil, List.cons_append,
    List.nil_append, List.forall_mem_cons, IsLine, String.toList_append]
  repeat rw [String.toList_ofList]
  decide

theorem isLine_interfaceLines (h : registry.WellFormed) :
    ∀ line ∈ ({} : Settings).interfaceLines registry, IsLine line := by
  intro line hLine
  rw [Settings.interfaceLines, List.mem_append, List.mem_append] at hLine
  rcases hLine with (hLine | hLine) | hLine
  · exact isLine_interfaceOpening line hLine
  · exact (h.indented_declarations line hLine).isLine
  · exact isLine_interfaceClosing line hLine

/-- The lines of the load routine's body are indented, apart from the empty lines between blocks. -/
theorem eq_empty_or_indented_of_mem_loadBody (h : registry.WellFormed) :
    ∀ line ∈ ({} : Settings).loadBody registry, line = "" ∨ Indented line := by
  intro line hLine
  rcases Text.mem_blocks hLine with hEmpty | ⟨block, hBlock, hMem⟩
  · exact Or.inl hEmpty
  · exact Or.inr (h.indented_loadLines block hBlock line hMem)

theorem isLine_implementationLines (h : registry.WellFormed) :
    ∀ line ∈ ({} : Settings).implementationLines registry, IsLine line := by
  intro line hLine
  simp only [Settings.implementationLines, Settings.unloadBody, List.mem_append, List.mem_cons,
    List.mem_map, List.not_mem_nil, or_false] at hLine
  rcases hLine with (((hLine | rfl | hLine) | rfl | rfl) | rfl | ⟨shader, hShader, rfl⟩ | rfl) | rfl
  · exact isLine_implementationOpening line hLine
  · decide
  · rcases h.eq_empty_or_indented_of_mem_loadBody line hLine with rfl | hIndented
    · decide
    · exact hIndented.isLine
  · decide
  · decide
  · decide
  · exact (Shader.indented_releaseLine (h.shader shader hShader)).isLine
  · decide
  · decide

/-- The header is taken apart into its lines. -/
theorem linesOf_interface (h : registry.WellFormed) :
    Text.linesOf (({} : Settings).artifacts registry).interface =
      ({} : Settings).interfaceLines registry := by
  rw [Settings.artifacts_interface]
  exact Text.linesOf_lines h.isLine_interfaceLines

/-- The source file is taken apart into its lines. -/
theorem linesOf_implementation (h : registry.WellFormed) :
    Text.linesOf (({} : Settings).artifacts registry).implementation =
      ({} : Settings).implementationLines registry := by
  rw [Settings.artifacts_implementation]
  exact Text.linesOf_lines h.isLine_implementationLines

end Registry.WellFormed

end ShaderHandles
