import Mathlib.Data.List.Nodup
import ShaderHandles.Proofs.C.Word
import ShaderHandles.Proofs.Registry.WellFormed

/-!
# Places of handle fields

A field is reached from the container by names: the member of its shader, then the names inside the
shader's struct. In a well-formed registry all of these names are identifiers, so the dotted path of
a field can be taken apart again, and no two fields have the same names.

* `dotted_injective`: names without dots are determined by the text that joins them by dots.
* `Field.names`: the names below the shader's member, one or two of them.
* `Shader.places`, `Registry.places`: the names of all fields from the container on.
* `Registry.WellFormed.places_nodup`: no two fields of a well-formed registry share a place.
-/

namespace ShaderHandles

/-! ## Dotted texts -/

/-- Names joined by dots. -/
def dotted (names : List String) : String := ".".intercalate names

theorem toList_dotted (names : List String) :
    (dotted names).toList = ['.'].intercalate (names.map String.toList) := by
  rw [dotted, String.toList_intercalate]
  rfl

theorem dotted_singleton (name : String) : dotted [name] = name := by
  simp [dotted]

theorem dotted_cons {names : List String} (first : String) (hNames : names ≠ []) :
    dotted (first :: names) = first ++ "." ++ dotted names := by
  obtain ⟨second, rest, rfl⟩ := List.exists_cons_of_ne_nil hNames
  rw [← String.toList_inj, toList_dotted, String.toList_append, String.toList_append, toList_dotted]
  simp

/-- Names without dots are determined by the text that joins them by dots. -/
theorem dotted_injective {first second : List String} (hFirst : first ≠ []) (hSecond : second ≠ [])
    (hFirstDots : ∀ name ∈ first, '.' ∉ name.toList)
    (hSecondDots : ∀ name ∈ second, '.' ∉ name.toList) (hEq : dotted first = dotted second) :
    first = second := by
  have hSplit {names : List String} (hNames : names ≠ []) (hDots : ∀ name ∈ names, '.' ∉ name.toList) :
      (dotted names).toList.splitOn '.' = names.map String.toList := by
    rw [toList_dotted]
    apply List.splitOn_intercalate
    · intro chars hChars
      obtain ⟨name, hName, rfl⟩ := List.mem_map.mp hChars
      exact hDots name hName
    · exact fun hNil => hNames (List.map_eq_nil_iff.mp hNil)
  have hLists := hSplit hFirst hFirstDots
  rw [hEq, hSplit hSecond hSecondDots] at hLists
  exact List.map_injective_iff.mpr (fun _ _ => String.toList_inj.mp) hLists.symm

/-! ## Names of fields -/

namespace Field

/-- The names of a field inside the struct of its shader. -/
def names : Field → List String
  | program => [programMember]
  | vertexAttribute name => [name]
  | uniform name => [name]
  | selector group => [group, selectorMember]
  | variant group name => [group, name]

theorem names_ne_nil (field : Field) : field.names ≠ [] := by
  cases field <;> exact List.cons_ne_nil _ _

theorem dotted_names (field : Field) : dotted field.names = field.path := by
  cases field <;> rfl

end Field

theorem Layout.programOf_eq (layout : Layout) (shader : String) :
    layout.programOf shader = layout.place shader Field.program.path := rfl

/-! ## One shader -/

namespace SubroutineGroup

theorem map_names_fields (group : SubroutineGroup) :
    group.fields.map Field.names =
      (Field.selectorMember :: group.variants).map fun member => [group.name, member] := by
  simp [fields, Field.names, Function.comp_def]

end SubroutineGroup

namespace GeneralShader

theorem map_names_plainFields (shader : GeneralShader) :
    shader.plainFields.map Field.names =
      (Field.programMember :: (shader.attributes ++ shader.uniforms)).map fun member => [member] := by
  simp [plainFields, Field.names, Function.comp_def]

theorem map_names_subroutineFields (shader : GeneralShader) :
    shader.subroutineFields.map Field.names =
      shader.groups.flatMap fun group =>
        (Field.selectorMember :: group.variants).map fun member => [group.name, member] := by
  rw [subroutineFields, List.map_flatMap]
  exact congrArg shader.groups.flatMap (funext SubroutineGroup.map_names_fields)

theorem program_mem_fields (shader : GeneralShader) : Field.program ∈ shader.fields :=
  List.mem_append_left _ List.mem_cons_self

/-- The names of a field from the container on. -/
def placeOf (shader : GeneralShader) (field : Field) : List String := shader.name :: field.names

namespace WellFormed

variable {shader : GeneralShader}

theorem groupNames_nodup (h : shader.WellFormed) :
    (shader.groups.map SubroutineGroup.name).Nodup :=
  (List.nodup_append.mp (List.nodup_cons.mp h.members_nodup).2).2.1

theorem plainNames_nodup (h : shader.WellFormed) :
    (Field.programMember :: (shader.attributes ++ shader.uniforms)).Nodup := by
  have hMembers := h.members_nodup
  rw [memberNames, ← List.cons_append] at hMembers
  exact (List.nodup_append.mp hMembers).1

/-- No two fields of a well-formed shader have the same names. -/
theorem names_nodup (h : shader.WellFormed) : (shader.fields.map Field.names).Nodup := by
  rw [fields, List.map_append, map_names_plainFields, map_names_subroutineFields,
    List.nodup_append]
  refine ⟨?plain, ?subroutine, ?apart⟩
  case plain =>
    exact h.plainNames_nodup.map fun first second hEq => List.head_eq_of_cons_eq hEq
  case subroutine =>
    rw [List.nodup_flatMap]
    constructor
    · intro group hGroup
      have hInjective : Function.Injective fun member => [group.name, member] :=
        fun first second hEq => List.head_eq_of_cons_eq (List.tail_eq_of_cons_eq hEq)
      exact (h.variants_nodup group hGroup).map hInjective
    · have hDistinct : shader.groups.Pairwise fun first second => first.name ≠ second.name :=
        List.pairwise_map.mp h.groupNames_nodup
      apply hDistinct.imp
      intro first second hNames
      refine List.disjoint_left.mpr ?_
      intro names hFirst hSecond
      obtain ⟨member, -, rfl⟩ := List.mem_map.mp hFirst
      obtain ⟨other, -, hEq⟩ := List.mem_map.mp hSecond
      exact hNames (List.head_eq_of_cons_eq hEq).symm
  case apart =>
    -- A field of the shader's own struct has one name, a field of a group's struct has two.
    intro plain hPlain subroutine hSubroutine hEq
    obtain ⟨member, -, rfl⟩ := List.mem_map.mp hPlain
    obtain ⟨group, -, hMember⟩ := List.mem_flatMap.mp hSubroutine
    obtain ⟨other, -, rfl⟩ := List.mem_map.mp hMember
    exact List.cons_ne_nil _ _ (List.tail_eq_of_cons_eq hEq).symm

theorem placeOf_nodup (h : shader.WellFormed) : (shader.fields.map shader.placeOf).Nodup := by
  have hPlaces : shader.fields.map shader.placeOf =
      (shader.fields.map Field.names).map (shader.name :: ·) := by
    rw [List.map_map]
    rfl
  rw [hPlaces]
  exact h.names_nodup.map fun first second hEq => List.tail_eq_of_cons_eq hEq

theorem isIdentifier_of_mem_plain (h : shader.WellFormed) :
    ∀ name ∈ Field.programMember :: (shader.attributes ++ shader.uniforms),
      C.isIdentifier name = true := by
  intro name hName
  rcases List.mem_cons.mp hName with rfl | hName
  · decide
  · exact h.member name (List.mem_append_left _ hName)

theorem isIdentifier_of_mem_group {group : SubroutineGroup} (h : shader.WellFormed)
    (hGroup : group ∈ shader.groups) :
    ∀ name ∈ Field.selectorMember :: group.variants, C.isIdentifier name = true := by
  intro name hName
  rcases List.mem_cons.mp hName with rfl | hName
  · decide
  · exact h.variant group hGroup name hName

theorem isIdentifier_groupName {group : SubroutineGroup} (h : shader.WellFormed)
    (hGroup : group ∈ shader.groups) : C.isIdentifier group.name = true :=
  h.member group.name (List.mem_append_right _ (List.mem_map_of_mem hGroup))

theorem isIdentifier_of_mem_names (h : shader.WellFormed) {field : Field}
    (hField : field ∈ shader.fields) : ∀ name ∈ field.names, C.isIdentifier name = true := by
  simp only [fields, plainFields, subroutineFields, SubroutineGroup.fields, List.mem_append,
    List.mem_cons, List.mem_map, List.mem_flatMap] at hField
  rcases hField with ((rfl | ⟨name, hName, rfl⟩) | ⟨name, hName, rfl⟩) |
    ⟨group, hGroup, rfl | ⟨name, hName, rfl⟩⟩
  · simpa [Field.names] using h.isIdentifier_of_mem_plain _ List.mem_cons_self
  · simpa [Field.names] using h.member name (by simp [memberNames, hName])
  · simpa [Field.names] using h.member name (by simp [memberNames, hName])
  · simpa [Field.names] using
      ⟨h.isIdentifier_groupName hGroup, h.isIdentifier_of_mem_group hGroup _ List.mem_cons_self⟩
  · simpa [Field.names] using
      ⟨h.isIdentifier_groupName hGroup, h.variant group hGroup name hName⟩

end WellFormed

end GeneralShader

/-! ## The registry -/

/-- The names of a shader's fields from the container on. -/
def Shader.places (shader : Shader) : List (List String) :=
  shader.expand.fields.map fun field => shader.name :: field.names

theorem Shader.places_eq (shader : Shader) :
    shader.places = shader.expand.fields.map shader.expand.placeOf := by
  rw [places, ← shader.expand_name]
  rfl

namespace Registry

/-- The names of all fields from the container on, shader by shader. -/
def places (registry : Registry) : List (List String) := registry.toList.flatMap Shader.places

/-- No two fields of a well-formed registry share a place. -/
theorem WellFormed.places_nodup {registry : Registry} (h : registry.WellFormed) :
    registry.places.Nodup := by
  rw [places, List.nodup_flatMap]
  constructor
  · intro shader hShader
    rw [shader.places_eq]
    exact (h.shader shader hShader).placeOf_nodup
  · have hDistinct : registry.toList.Pairwise fun first second => first.name ≠ second.name :=
      List.pairwise_map.mp h.names_nodup
    apply hDistinct.imp
    intro first second hNames
    refine List.disjoint_left.mpr ?_
    intro place hFirst hSecond
    obtain ⟨field, -, rfl⟩ := List.mem_map.mp hFirst
    obtain ⟨other, -, hEq⟩ := List.mem_map.mp hSecond
    exact hNames (List.head_eq_of_cons_eq hEq).symm

theorem WellFormed.isIdentifier_of_mem_places {registry : Registry} (h : registry.WellFormed)
    {place : List String} (hPlace : place ∈ registry.places) :
    ∀ name ∈ place, C.isIdentifier name = true := by
  obtain ⟨shader, hShader, hMem⟩ := List.mem_flatMap.mp hPlace
  obtain ⟨field, hField, rfl⟩ := List.mem_map.mp hMem
  have hWell := h.shader shader hShader
  intro name hName
  rcases List.mem_cons.mp hName with rfl | hName
  · rw [← shader.expand_name]
    exact hWell.name
  · exact hWell.isIdentifier_of_mem_names hField name hName

end Registry

end ShaderHandles
