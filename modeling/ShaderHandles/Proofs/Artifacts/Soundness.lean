import ShaderHandles.Proofs.Artifacts.Units
import ShaderHandles.Proofs.C.Scope

/-!
# The check is sound for the generated C

With the default settings both artifacts of an accepted registry are well-formed C: their tokens are
balanced, they parse, no struct has two members of one name, and every place in the source file is a
handle that the header declares. This is said of the tokens as they are written, before macros are
replaced: the include guard `SHADERS_GEN_H`, which the header defines as an empty macro, is accepted as
the name of a shader.

* `Registry.WellFormed.wellScoped_container`: the scopes of the container.
* `Registry.WellFormed.resolve_fieldPlace`: the place of a field stands for a handle.
* `Registry.artifacts_sound`: an accepted registry has well-formed artifacts.
-/

namespace ShaderHandles

open C (WellScoped spelled)

/-! ## Scopes -/

@[simp] theorem name_handleMember (name : String) : (handleMember name).name = name := rfl

@[simp] theorem SubroutineGroup.name_member (group : SubroutineGroup) :
    group.member.name = group.name := rfl

@[simp] theorem Shader.name_member (shader : Shader) : shader.member.name = shader.name := by
  cases shader <;> rfl

theorem map_name_handleMember (names : List String) :
    (names.map handleMember).map C.Member.name = names := by
  simp [Function.comp_def]

/-- Distinct identifiers are a scope of handles. -/
theorem wellScoped_handles {names : List String}
    (hNames : ∀ name ∈ names, C.isIdentifier name = true) (hNodup : names.Nodup) :
    WellScoped (names.map handleMember) := by
  refine .intro ?_ ?_ ?_
  · intro member hMember
    obtain ⟨name, hName, rfl⟩ := List.mem_map.mp hMember
    exact hNames name hName
  · rwa [map_name_handleMember]
  · intro inner name hMember
    obtain ⟨other, -, hEq⟩ := List.mem_map.mp hMember
    exact nomatch hEq

theorem wellScoped_shared : WellScoped Registry.sharedTypedef.members :=
  wellScoped_handles (by decide) (by decide)

namespace GeneralShader

theorem map_name_structMembers (shader : GeneralShader) :
    shader.structMembers.map C.Member.name = Field.programMember :: shader.memberNames := by
  simp [structMembers, memberNames, Function.comp_def]

namespace WellFormed

variable {shader : GeneralShader}

theorem wellScoped_group {group : SubroutineGroup} (h : shader.WellFormed)
    (hGroup : group ∈ shader.groups) :
    WellScoped ((Field.selectorMember :: group.variants).map handleMember) :=
  wellScoped_handles (h.isIdentifier_of_mem_group hGroup) (h.variants_nodup group hGroup)

theorem wellScoped_structMembers (h : shader.WellFormed) : WellScoped shader.structMembers := by
  refine .intro ?_ ?_ ?_
  · intro member hMember
    have hName : member.name ∈ Field.programMember :: shader.memberNames := by
      rw [← shader.map_name_structMembers]
      exact List.mem_map_of_mem hMember
    rcases List.mem_cons.mp hName with hProgram | hName
    · rw [hProgram]
      decide
    · exact h.member _ hName
  · rw [map_name_structMembers]
    exact h.members_nodup
  · intro inner name hMember
    rcases List.mem_append.mp hMember with hPlain | hStruct
    · obtain ⟨other, -, hEq⟩ := List.mem_map.mp hPlain
      exact nomatch hEq
    · obtain ⟨group, hGroup, hEq⟩ := List.mem_map.mp hStruct
      cases hEq
      exact h.wellScoped_group hGroup

end WellFormed

end GeneralShader

theorem Registry.WellFormed.wellScoped_container {registry : Registry} (h : registry.WellFormed) :
    WellScoped registry.header.container.members := by
  refine .intro ?_ ?_ ?_
  · intro member hMember
    obtain ⟨shader, hShader, rfl⟩ := List.mem_map.mp hMember
    rw [Shader.name_member, ← shader.expand_name]
    exact (h.shader shader hShader).name
  · have hNames : registry.header.container.members.map C.Member.name = registry.names := by
      simp [header, names_eq, Function.comp_def]
    rw [hNames]
    exact h.names_nodup
  · intro inner name hMember
    obtain ⟨shader, hShader, hEq⟩ := List.mem_map.mp hMember
    cases shader with
    | simple shader => cases hEq
    | general shader =>
      cases hEq
      exact GeneralShader.WellFormed.wellScoped_structMembers (h.shader _ hShader)

/-! ## Places -/

/-- A handle of a scope is found by its name. -/
theorem lookup_handle {types : List C.Typedef} {members : List C.Member} {name : String}
    (hTypes : types.find? (·.name = "GLuint") = none) (hScope : WellScoped members)
    (hMember : handleMember name ∈ members) : C.lookup types members [name] = some "GLuint" := by
  have hFind := C.find?_name hScope.distinct hMember
  rw [name_handleMember] at hFind
  rw [C.lookup, hFind]
  simp [handleMember, hTypes]

/-- A member of an inline struct of a scope is found through that struct. -/
theorem lookup_struct {types : List C.Typedef} {members inner : List C.Member} {name : String}
    {path : List String} (hScope : WellScoped members) (hMember : .struct inner name ∈ members) :
    C.lookup types members (name :: path) = C.lookup types inner path := by
  have hFind : members.find? (·.name = name) = some (.struct inner name) :=
    C.find?_name hScope.distinct hMember
  rw [C.lookup, hFind]

theorem GeneralShader.WellFormed.lookup_names {shader : GeneralShader} {field : Field}
    {types : List C.Typedef} (h : shader.WellFormed) (hField : field ∈ shader.fields)
    (hTypes : types.find? (·.name = "GLuint") = none) :
    C.lookup types shader.structMembers field.names = some "GLuint" := by
  have hPlain {name : String}
      (hName : name ∈ Field.programMember :: (shader.attributes ++ shader.uniforms)) :
      C.lookup types shader.structMembers [name] = some "GLuint" :=
    lookup_handle hTypes h.wellScoped_structMembers
      (List.mem_append_left _ (List.mem_map_of_mem hName))
  have hInner {group : SubroutineGroup} {name : String} (hGroup : group ∈ shader.groups)
      (hName : name ∈ Field.selectorMember :: group.variants) :
      C.lookup types shader.structMembers [group.name, name] = some "GLuint" := by
    have hStruct : C.Member.struct ((Field.selectorMember :: group.variants).map handleMember)
        group.name ∈ shader.structMembers :=
      List.mem_append_right _ (List.mem_map_of_mem hGroup)
    rw [lookup_struct h.wellScoped_structMembers hStruct]
    exact lookup_handle hTypes (h.wellScoped_group hGroup) (List.mem_map_of_mem hName)
  simp only [fields, plainFields, subroutineFields, SubroutineGroup.fields, List.mem_append,
    List.mem_cons, List.mem_map, List.mem_flatMap] at hField
  rcases hField with ((rfl | ⟨name, hName, rfl⟩) | ⟨name, hName, rfl⟩) |
    ⟨group, hGroup, rfl | ⟨name, hName, rfl⟩⟩
  · exact hPlain List.mem_cons_self
  · exact hPlain (List.mem_cons_of_mem _ (List.mem_append_left _ hName))
  · exact hPlain (List.mem_cons_of_mem _ (List.mem_append_right _ hName))
  · exact hInner hGroup List.mem_cons_self
  · exact hInner hGroup (List.mem_cons_of_mem _ hName)

/-- The fields of a simple shader are the members of the shared struct type. -/
theorem lookup_shared {shader : SimpleShader} {field : Field} {types : List C.Typedef}
    (hField : field ∈ shader.expand.fields) (hTypes : types.find? (·.name = "GLuint") = none) :
    C.lookup types Registry.sharedTypedef.members field.names = some "GLuint" := by
  have hNames : field.names ∈ shader.expand.fields.map Field.names := List.mem_map_of_mem hField
  rw [GeneralShader.fields, List.map_append, GeneralShader.map_names_plainFields,
    GeneralShader.map_names_subroutineFields] at hNames
  rcases List.mem_append.mp hNames with hPlain | hNone
  · obtain ⟨name, hName, hEq⟩ := List.mem_map.mp hPlain
    rw [← hEq]
    exact lookup_handle hTypes wellScoped_shared (List.mem_map_of_mem hName)
  · exact absurd hNone List.not_mem_nil

/-- The place of a field stands for a handle that the header declares. -/
theorem Registry.WellFormed.resolve_fieldPlace {registry : Registry} {shader : Shader}
    {field : Field} (h : registry.WellFormed) (hShader : shader ∈ registry.toList)
    (hField : field ∈ shader.expand.fields) :
    registry.header.resolve (shader.expand.fieldPlace field) = some "GLuint" := by
  have hTypes : [sharedTypedef].find? (·.name = "GLuint") = none := by decide
  have hMember : shader.member ∈ registry.header.container.members := List.mem_map_of_mem hShader
  have hResolve : registry.header.resolve (shader.expand.fieldPlace field) =
      C.lookup [sharedTypedef] registry.header.container.members (shader.name :: field.names) := by
    rw [C.Header.resolve, GeneralShader.fieldPlace, shader.expand_name]
    exact if_pos ⟨rfl, rfl⟩
  rw [hResolve]
  cases shader with
  | general shader =>
    have hWell : shader.WellFormed := h.shader _ hShader
    have hStruct : C.Member.struct shader.structMembers shader.name ∈
        registry.header.container.members := hMember
    exact (lookup_struct h.wellScoped_container hStruct).trans (hWell.lookup_names hField hTypes)
  | simple shader =>
    have hFind : registry.header.container.members.find? (·.name = shader.name) =
        some (.typed "SimpleShader" shader.name) :=
      C.find?_name h.wellScoped_container.distinct hMember
    have hShared : [sharedTypedef].find? (·.name = "SimpleShader") = some sharedTypedef := by rfl
    have hLookup := lookup_shared hField hTypes
    rw [Shader.name, C.lookup, hFind]
    simp only [hShared]
    exact hLookup

/-! ## Places in the source file -/

namespace GeneralShader

theorem bodyTargets_map_loadTree (shader : GeneralShader) (fields : List Field) :
    C.bodyTargets (fields.map shader.loadTree) = fields.map shader.fieldPlace := by
  rw [C.bodyTargets_eq_flatMap, List.flatMap_map]
  exact (List.map_eq_flatMap).symm

theorem bodyTargets_loadTrees (shader : GeneralShader) :
    C.bodyTargets shader.loadTrees = shader.fields.map shader.fieldPlace := by
  have hGuarded : C.bodyTargets shader.guardedTrees =
      shader.subroutineFields.map shader.fieldPlace := by
    unfold guardedTrees
    split
    · next hEmpty =>
      rw [subroutineFields, List.isEmpty_iff.mp hEmpty]
      rfl
    · rw [C.bodyTargets, C.Statement.targets, bodyTargets_map_loadTree, C.bodyTargets,
        List.append_nil]
  rw [C.bodyTargets_eq_flatMap, loadTrees, List.flatMap_append, ← C.bodyTargets_eq_flatMap,
    ← C.bodyTargets_eq_flatMap, bodyTargets_map_loadTree, hGuarded, fields, List.map_append]

/-- Calls of the load routine are passed the program and constants. -/
theorem eq_program_or_constant_of_mem_loadCall {shader : GeneralShader} {field : Field}
    {place : C.Place} (hPlace : place ∈ (shader.loadCall field).arguments.filterMap C.Argument.place?) :
    place = shader.programPlace ∨ place.members = [] := by
  cases field with
  | program => exact absurd hPlace List.not_mem_nil
  | vertexAttribute name => exact Or.inl (List.mem_singleton.mp hPlace)
  | uniform name => exact Or.inl (List.mem_singleton.mp hPlace)
  | selector group =>
    rcases List.mem_cons.mp hPlace with hProgram | hStage
    · exact Or.inl hProgram
    · exact Or.inr (List.mem_singleton.mp hStage ▸ rfl)
  | variant group name =>
    rcases List.mem_cons.mp hPlace with hProgram | hStage
    · exact Or.inl hProgram
    · exact Or.inr (List.mem_singleton.mp hStage ▸ rfl)

theorem eq_program_or_constant_of_mem_fields {shader : GeneralShader} {fields : List Field}
    {place : C.Place} (hPlace : place ∈ C.bodyArguments (fields.map shader.loadTree)) :
    place = shader.programPlace ∨ place.members = [] := by
  rw [C.bodyArguments_eq_flatMap, List.flatMap_map] at hPlace
  obtain ⟨field, -, hPlace⟩ := List.mem_flatMap.mp hPlace
  exact eq_program_or_constant_of_mem_loadCall hPlace

theorem eq_program_or_constant_of_mem_loadTrees {shader : GeneralShader} {place : C.Place}
    (hPlace : place ∈ C.bodyArguments shader.loadTrees) :
    place = shader.programPlace ∨ place.members = [] := by
  rw [C.bodyArguments_eq_flatMap, loadTrees, List.flatMap_append, ← C.bodyArguments_eq_flatMap,
    ← C.bodyArguments_eq_flatMap] at hPlace
  rcases List.mem_append.mp hPlace with hPlain | hGuarded
  · exact eq_program_or_constant_of_mem_fields hPlain
  · unfold guardedTrees at hGuarded
    split at hGuarded
    · exact absurd hGuarded List.not_mem_nil
    · rw [C.bodyArguments, C.Statement.arguments, C.bodyArguments, List.append_nil] at hGuarded
      rcases List.mem_append.mp hGuarded with hCapability | hBody
      · exact Or.inr (List.mem_singleton.mp hCapability ▸ rfl)
      · exact eq_program_or_constant_of_mem_fields hBody

end GeneralShader

namespace Registry.WellFormed

variable {registry : Registry} {place : C.Place}

theorem resolve_of_mem_targets (h : registry.WellFormed)
    (hPlace : place ∈ registry.source.targets) : registry.header.resolve place = some "GLuint" := by
  have hUnload : C.bodyTargets registry.unloadTrees = [] := by
    rw [C.bodyTargets_eq_flatMap, List.flatMap_eq_nil_iff]
    intro statement hStatement
    rcases List.mem_append.mp hStatement with hRelease | hReset
    · obtain ⟨shader, -, rfl⟩ := List.mem_map.mp hRelease
      rfl
    · rw [List.mem_singleton.mp hReset]
      rfl
  have hLoad : place ∈ C.bodyTargets registry.loadTrees := by
    rcases List.mem_append.mp hPlace with hLoad | hNone
    · exact hLoad
    · exact absurd (hUnload ▸ hNone) List.not_mem_nil
  rw [C.bodyTargets_eq_flatMap, loadTrees, List.flatMap_assoc] at hLoad
  obtain ⟨shader, hShader, hMem⟩ := List.mem_flatMap.mp hLoad
  rw [← C.bodyTargets_eq_flatMap, GeneralShader.bodyTargets_loadTrees] at hMem
  obtain ⟨field, hField, rfl⟩ := List.mem_map.mp hMem
  exact h.resolve_fieldPlace hShader hField

theorem resolve_of_mem_arguments (h : registry.WellFormed)
    (hPlace : place ∈ registry.source.arguments) :
    registry.header.resolve place = some "GLuint" ∨ place.members = [] := by
  have hProgram {shader : Shader} (hShader : shader ∈ registry.toList) :
      registry.header.resolve shader.expand.programPlace = some "GLuint" :=
    h.resolve_fieldPlace hShader shader.expand.program_mem_fields
  rcases List.mem_append.mp hPlace with hLoad | hUnload
  · change place ∈ C.bodyArguments registry.loadTrees at hLoad
    rw [C.bodyArguments_eq_flatMap, loadTrees, List.flatMap_assoc] at hLoad
    obtain ⟨shader, hShader, hMem⟩ := List.mem_flatMap.mp hLoad
    rw [← C.bodyArguments_eq_flatMap] at hMem
    rcases GeneralShader.eq_program_or_constant_of_mem_loadTrees hMem with rfl | hConstant
    · exact Or.inl (hProgram hShader)
    · exact Or.inr hConstant
  · change place ∈ C.bodyArguments registry.unloadTrees at hUnload
    rw [C.bodyArguments_eq_flatMap] at hUnload
    obtain ⟨statement, hStatement, hMem⟩ := List.mem_flatMap.mp hUnload
    rcases List.mem_append.mp hStatement with hRelease | hReset
    · obtain ⟨shader, hShader, rfl⟩ := List.mem_map.mp hRelease
      rw [List.mem_singleton.mp hMem]
      exact Or.inl (hProgram hShader)
    · rw [List.mem_singleton.mp hReset] at hMem
      exact absurd hMem List.not_mem_nil

end Registry.WellFormed

/-! ## Soundness -/

/-- A pair of texts that is well-formed C, read as a header and a source file. -/
structure WellFormedC (artifacts : Artifacts) (header : C.Header) (source : C.Source) : Prop where
  /-- Comments and literals are closed, the latter on their lines, and brackets are balanced. -/
  interface_tokens : ∃ found, C.tokens artifacts.interface = some found ∧ C.Balanced found
  implementation_tokens : ∃ found, C.tokens artifacts.implementation = some found ∧ C.Balanced found
  interface_parses : C.readHeader artifacts.interface = some header
  implementation_parses : C.readSource artifacts.implementation = some source
  guard : header.guard = "SHADERS_GEN_H"
  shared_name : header.shared.name = "SimpleShader"
  shared_scoped : WellScoped header.shared.members
  container_nonempty : header.container.members ≠ []
  container_scoped : WellScoped header.container.members
  preamble : source.includes =
    [.system "string.h", .quoted "shaders.gen.h", .quoted "opengl_shader.h"]
  object : source.object = ⟨header.container.name, "shaders"⟩ ∧ header.object = source.object
  routines : source.load.name = "shaders_load" ∧ source.unload.name = "shaders_unload" ∧
    header.prototypes = [source.load.name, source.unload.name]
  targets_resolve : ∀ place ∈ source.targets, header.resolve place = some "GLuint"
  /-- An argument without members is a constant of the graphics library. -/
  arguments_resolve : ∀ place ∈ source.arguments,
    header.resolve place = some "GLuint" ∨ place.members = []

theorem Registry.WellFormed.wellFormedC {registry : Registry} (h : registry.WellFormed) :
    WellFormedC (({} : Settings).artifacts registry) registry.header registry.source where
  interface_tokens := ⟨_, h.tokens_interface, registry.header.balanced⟩
  implementation_tokens := ⟨_, h.tokens_implementation, registry.source.balanced⟩
  interface_parses := h.readHeader_eq
  implementation_parses := h.readSource_eq
  guard := rfl
  shared_name := rfl
  shared_scoped := wellScoped_shared
  container_nonempty := fun hNil => h.nonempty (List.map_eq_nil_iff.mp hNil)
  container_scoped := h.wellScoped_container
  preamble := rfl
  object := ⟨rfl, rfl⟩
  routines := ⟨rfl, rfl, rfl⟩
  targets_resolve := fun _ hPlace => h.resolve_of_mem_targets hPlace
  arguments_resolve := fun _ hPlace => h.resolve_of_mem_arguments hPlace

namespace Registry

/-- The artifacts of an accepted registry are well-formed C. -/
theorem artifacts_sound {registry : Registry} (hAccepted : registry.Accepted) :
    ∃ artifacts header source, (({} : Settings).generate registry).result = .ok artifacts ∧
      WellFormedC artifacts header source := by
  have hWell := accepted_iff_wellFormed.mp hAccepted
  exact ⟨_, _, _, Settings.generate_default registry, hWell.wellFormedC⟩

/-- Both kinds of shaders at once. -/
theorem artifacts_sound_sample :
    sample.Accepted ∧ ∃ artifacts header source,
      (({} : Settings).generate sample).result = .ok artifacts ∧
        WellFormedC artifacts header source :=
  ⟨sample_accepted, artifacts_sound sample_accepted⟩

end Registry

end ShaderHandles
