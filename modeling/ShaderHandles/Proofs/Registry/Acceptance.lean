import ShaderHandles.Proofs.Shader.Place

/-!
# What the check accepts

The conditions of the check in terms of characters and repetitions. A name is a letter or an
underscore, then letters, digits and underscores, and no keyword of C99; a source path has at least
one character and none that would end a literal, begin an escape or control a terminal. Distinctness
is asked for in three kinds of scopes: the names of shaders, the members of a shader's struct with
the program among them, and the members of a group's struct with the selector among them.

* `C.isIdentifier_iff`, `C.isQuotable_iff`: the two tests on texts, character by character.
* `GeneralShader.Declarable`: the conditions on one shader.
* `GeneralShader.WellFormed.fieldPaths_nodup`: the dotted paths of a shader's fields are distinct.
* `Registry.accepted_iff_declarable`: the check accepts exactly the registries of distinct,
  declarable shaders.
-/

namespace ShaderHandles

/-! ## Characters of names and of literals -/

namespace C

def StartsName (c : Char) : Prop := ('A' ≤ c ∧ c ≤ 'Z') ∨ ('a' ≤ c ∧ c ≤ 'z') ∨ c = '_'

def ContinuesName (c : Char) : Prop := StartsName c ∨ ('0' ≤ c ∧ c ≤ '9')

/-- A text that names a member: `[A-Za-z_][A-Za-z0-9_]*`, and no keyword. -/
structure MemberName (name : String) : Prop where
  spelling : ∃ first rest, name.toList = first :: rest ∧ StartsName first ∧
    ∀ c ∈ rest, ContinuesName c
  free : name ∉ keywords

/-- A control character: U+0000 to U+001F and U+007F to U+009F. -/
def Controls (c : Char) : Prop := c ≤ '\x1f' ∨ ('\x7f' ≤ c ∧ c ≤ '\u009f')

/-- A text that stands for itself between double quotes. -/
structure LiteralText (text : String) : Prop where
  nonempty : text ≠ ""
  quote : '"' ∉ text.toList
  backslash : '\\' ∉ text.toList
  control : ∀ c ∈ text.toList, ¬ Controls c

theorem isIdentifierStart_iff {c : Char} : isIdentifierStart c = true ↔ StartsName c := by
  simp only [isIdentifierStart, StartsName, isAlpha_iff, Bool.or_eq_true, beq_iff_eq, or_assoc]

theorem isIdentifierPart_iff {c : Char} : isIdentifierPart c = true ↔ ContinuesName c := by
  have hStart := isIdentifierStart_iff (c := c)
  simp only [isIdentifierStart, Bool.or_eq_true, beq_iff_eq] at hStart
  simp only [isIdentifierPart, ContinuesName, ← hStart, Char.isAlphanum, Char.isDigit,
    Bool.or_eq_true, Bool.and_eq_true, decide_eq_true_eq, beq_iff_eq, Char.le_def, ge_iff_le]
  exact or_right_comm

theorem isIdentifier_iff {name : String} : isIdentifier name = true ↔ MemberName name := by
  simp only [isIdentifier, Bool.and_eq_true, Bool.not_eq_true', List.contains_eq_mem,
    decide_eq_false_iff_not]
  constructor
  · rintro ⟨hWord, hFree⟩
    obtain ⟨first, rest, hChars, hStart, hRest⟩ := exists_cons_of_isWord hWord
    refine ⟨⟨first, rest, hChars, isIdentifierStart_iff.mp hStart, fun c hc => ?_⟩, hFree⟩
    exact isIdentifierPart_iff.mp (List.all_eq_true.mp hRest c hc)
  · rintro ⟨⟨first, rest, hChars, hStart, hRest⟩, hFree⟩
    refine ⟨?_, hFree⟩
    rw [hChars, isWord, isIdentifierStart_iff.mpr hStart, Bool.true_and, List.all_eq_true]
    exact fun c hc => isIdentifierPart_iff.mpr (hRest c hc)

theorem isControl_iff {c : Char} : isControl c = true ↔ Controls c := by
  simp only [isControl, Bool.or_eq_true, Bool.and_eq_true, decide_eq_true_eq]
  exact Iff.rfl

theorem isQuotable_iff {text : String} : isQuotable text = true ↔ LiteralText text := by
  simp only [isQuotable, isLiteralChar, Bool.and_eq_true, Bool.not_eq_true', Bool.or_eq_false_iff,
    List.isEmpty_eq_false_iff, List.all_eq_true, beq_eq_false_iff_ne]
  have hControl (c : Char) : isControl c = false ↔ ¬ Controls c := by
    rw [← isControl_iff, Bool.not_eq_true]
  constructor
  · rintro ⟨hNonempty, hChars⟩
    refine ⟨?_, ?_, ?_, fun c hc => (hControl c).mp (hChars c hc).2⟩
    · rintro rfl
      exact hNonempty rfl
    · exact fun hMem => (hChars _ hMem).1.1 rfl
    · exact fun hMem => (hChars _ hMem).1.2 rfl
  · rintro ⟨hNonempty, hQuote, hBackslash, hControls⟩
    refine ⟨fun hNil => hNonempty (String.toList_eq_nil_iff.mp hNil), fun c hc => ⟨⟨?_, ?_⟩, ?_⟩⟩
    · rintro rfl
      exact hQuote hc
    · rintro rfl
      exact hBackslash hc
    · exact (hControl c).mpr (hControls c hc)

end C

/-! ## One shader -/

namespace GeneralShader

/-- A shader that C can declare and load under the names and from the paths that it has. -/
structure Declarable (shader : GeneralShader) : Prop where
  name : C.MemberName shader.name
  vertexPath : C.LiteralText shader.vertexPath
  fragmentPath : C.LiteralText shader.fragmentPath
  vertexAttribute : ∀ name ∈ shader.attributes, C.MemberName name
  uniform : ∀ name ∈ shader.uniforms, C.MemberName name
  group : ∀ group ∈ shader.groups, C.MemberName group.name
  variant : ∀ group ∈ shader.groups, ∀ name ∈ group.variants, C.MemberName name
  /-- The members of the shader's struct. -/
  members : ("program" :: (shader.attributes ++ shader.uniforms ++
    shader.groups.map SubroutineGroup.name)).Nodup
  /-- The members of a group's struct. -/
  variants : ∀ group ∈ shader.groups, ("uniform" :: group.variants).Nodup

theorem wellFormed_iff_declarable {shader : GeneralShader} :
    shader.WellFormed ↔ shader.Declarable := by
  constructor
  · intro h
    have hMember {name : String} (hName : name ∈ shader.memberNames) : C.MemberName name :=
      C.isIdentifier_iff.mp (h.member name hName)
    refine ⟨C.isIdentifier_iff.mp h.name, C.isQuotable_iff.mp h.vertexPath,
      C.isQuotable_iff.mp h.fragmentPath, ?_, ?_, ?_, ?_, h.members_nodup, h.variants_nodup⟩
    · exact fun name hName => hMember (List.mem_append_left _ (List.mem_append_left _ hName))
    · exact fun name hName => hMember (List.mem_append_left _ (List.mem_append_right _ hName))
    · exact fun group hGroup => hMember (List.mem_append_right _ (List.mem_map_of_mem hGroup))
    · exact fun group hGroup name hName => C.isIdentifier_iff.mp (h.variant group hGroup name hName)
  · intro h
    refine ⟨C.isIdentifier_iff.mpr h.name, C.isQuotable_iff.mpr h.vertexPath,
      C.isQuotable_iff.mpr h.fragmentPath, ?_, h.members, ?_, h.variants⟩
    · intro name hName
      rw [memberNames, List.mem_append, List.mem_append] at hName
      rcases hName with (hAttribute | hUniform) | hGroup
      · exact C.isIdentifier_iff.mpr (h.vertexAttribute name hAttribute)
      · exact C.isIdentifier_iff.mpr (h.uniform name hUniform)
      · obtain ⟨group, hMem, rfl⟩ := List.mem_map.mp hGroup
        exact C.isIdentifier_iff.mpr (h.group group hMem)
    · intro group hGroup name hName
      exact C.isIdentifier_iff.mpr (h.variant group hGroup name hName)

/-- The dotted paths of a well-formed shader's fields are distinct. A path is taken apart at its
dots, because no name holds one. -/
theorem WellFormed.fieldPaths_nodup {shader : GeneralShader} (h : shader.WellFormed) :
    shader.fieldPaths.Nodup := by
  have hDots {field : Field} (hField : field ∈ shader.fields) :
      ∀ name ∈ field.names, '.' ∉ name.toList := fun name hName =>
    C.not_mem_of_isIdentifier (h.isIdentifier_of_mem_names hField name hName) rfl
  have hPaths : shader.fieldPaths = (shader.fields.map Field.names).map dotted := by
    rw [fieldPaths, List.map_map]
    exact List.map_congr_left fun field _ => field.dotted_names.symm
  rw [hPaths]
  apply h.names_nodup.map_on
  intro first hFirst second hSecond hEq
  obtain ⟨field, hField, rfl⟩ := List.mem_map.mp hFirst
  obtain ⟨other, hOther, rfl⟩ := List.mem_map.mp hSecond
  exact dotted_injective field.names_ne_nil other.names_ne_nil (hDots hField) (hDots hOther) hEq

end GeneralShader

/-! ## The registry -/

namespace Registry

/-- The check accepts exactly the registries with a shader, without repeated names, and with shaders
that are declarable after the expansion of simple ones. The paths of each shader's fields are
distinct then. -/
theorem accepted_iff_declarable (registry : Registry) :
    (registry.Accepted ↔
      registry.toList ≠ [] ∧ (registry.toList.map Shader.name).Nodup ∧
        ∀ shader ∈ registry.toList, shader.expand.Declarable) ∧
      (registry.Accepted → ∀ shader ∈ registry.toList, shader.fieldPaths.Nodup) := by
  rw [accepted_iff_wellFormed]
  refine ⟨⟨fun h => ⟨h.nonempty, h.names_nodup, ?_⟩, ?_⟩, ?_⟩
  · exact fun shader hShader => GeneralShader.wellFormed_iff_declarable.mp (h.shader shader hShader)
  · rintro ⟨hNonempty, hNames, hShaders⟩
    refine ⟨hNonempty, hNames, fun shader hShader => ?_⟩
    exact GeneralShader.wellFormed_iff_declarable.mpr (hShaders shader hShader)
  · exact fun h shader hShader => (h.shader shader hShader).fieldPaths_nodup

/-- The registry of two shaders, one of each kind, is accepted, so its shaders are declarable and no
path is repeated in them. -/
theorem accepted_iff_declarable_sample :
    sample.Accepted ∧ (∀ shader ∈ sample.toList, shader.expand.Declarable) ∧
      ∀ shader ∈ sample.toList, shader.fieldPaths.Nodup :=
  ⟨sample_accepted, ((accepted_iff_declarable sample).1.mp sample_accepted).2.2,
    (accepted_iff_declarable sample).2 sample_accepted⟩

end Registry

end ShaderHandles
