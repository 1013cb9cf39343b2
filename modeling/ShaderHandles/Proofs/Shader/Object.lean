import ShaderHandles.Registry.Document
import ShaderHandles.Proofs.Json.Decoding

/-!
# The objects of groups and shaders

The members of an object give a group or a shader if they hold its fields, in any order and with
members between them that mean nothing. A list of a shader that is empty may be left out. All these
objects are decoded to the group or the shader.

* `SubroutineGroup.IsGivenBy`, `GeneralShader.IsGivenBy`, `SimpleShader.IsGivenBy`: such objects.
* `SubroutineGroup.merges`, `GeneralShader.merges`, `SimpleShader.merges`: every slot sets its own
  field.
* `GeneralShader.decode_of_isGivenBy`, `SimpleShader.decode_of_isGivenBy`: what is decoded.
-/

namespace ShaderHandles

open Json

/-! ## Groups -/

namespace SubroutineGroup

/-- The fields of the object of a group, with the values that they have there. -/
def givenFields (group : SubroutineGroup) : List (String × (Value → Prop)) :=
  [("name", (· = .string group.name)), ("variants", (· = .list (group.variants.map .string)))]

/-- The keys that no object of a group leaves out. -/
def requiredKeys : List String := ["name", "variants"]

/-- The members of an object give a group, in any order and with other members between them. -/
structure IsGivenBy (group : SubroutineGroup) (members : List (String × Value)) : Prop where
  isPartial : IsPartial group.givenFields members
  required : ∀ key ∈ requiredKeys, key ∈ members.map Prod.fst

/-- What a record is after the members of an object that gives fields of `group`. -/
def withGiven (group record : SubroutineGroup) (members : List (String × Value)) :
    SubroutineGroup where
  name := fieldOr (fun _ => some group.name) members "name" record.name
  variants := fieldOr (fun _ => some group.variants) members "variants" record.variants

theorem merges (group : SubroutineGroup) :
    Merges Slot.key Slot.Takes group.givenFields slots group.withGiven where
  distinct := show ["name", "variants"].Nodup by decide
  nil _ := rfl
  other key value members record hKey := by
    simp only [givenFields, List.map_cons, List.map_nil, List.mem_cons, List.not_mem_nil, or_false,
      not_or] at hKey
    simp [withGiven, hKey]
  parts := by
    refine .cons ⟨rfl, ?name⟩ (.cons ⟨rfl, ?variants⟩ .nil)
    case name =>
      rintro _ members record rfl hAbsent
      refine ⟨_, Slot.takes_text group.name record, ?_⟩
      simp [withGiven, fieldOr_of_absent hAbsent]
    case variants =>
      rintro _ members record rfl hAbsent
      refine ⟨_, Slot.takes_texts group.variants record, ?_⟩
      simp [withGiven, fieldOr_of_absent hAbsent]

theorem requires : Slot.Requires slots requiredKeys := by
  simp [Slot.Requires, requiredKeys, slots, Slot.text, Slot.texts, Slot.ofDecoder]

theorem decode_of_isGivenBy {group : SubroutineGroup} {members : List (String × Value)}
    (hGiven : group.IsGivenBy members) : decode (.object members) = .ok group := by
  have hDecode := decodeMembers_of_isPartial group.merges requires hGiven.isPartial hGiven.required
    ⟨"", []⟩
  have hGroup : group.withGiven ⟨"", []⟩ members = group := by
    simp [withGiven, fieldOr_of_mem_or_eq (.inl (hGiven.required "name" (by decide))),
      fieldOr_of_mem_or_eq (.inl (hGiven.required "variants" (by decide)))]
  rw [hGroup] at hDecode
  exact hDecode

/-- The object of a group has only two levels, with the list of its variants. -/
theorem IsGivenBy.within? {group : SubroutineGroup} {members : List (String × Value)}
    (hGiven : group.IsGivenBy members) (room : Nat) :
    (Value.object members).within? (room + 2) = some (.object members) := by
  apply Value.within?_object
  apply hGiven.isPartial.within?
  simp only [givenFields, List.forall_mem_cons, List.not_mem_nil, false_imp_iff, implies_true,
    and_true, forall_eq]
  exact ⟨Value.within?_string _ _, Value.within?_texts _ _⟩

end SubroutineGroup

/-! ## General shaders -/

namespace GeneralShader

/-- The fields of the object of a general shader, with the values that they have there. -/
def givenFields (shader : GeneralShader) : List (String × (Value → Prop)) :=
  [("name", (· = .string shader.name)),
    ("vertex_source_path", (· = .string shader.vertexPath)),
    ("fragment_source_path", (· = .string shader.fragmentPath)),
    ("attributes", (· = .list (shader.attributes.map .string))),
    ("uniforms", (· = .list (shader.uniforms.map .string))),
    ("subroutines", fun value => ∃ objects, value = .list (objects.map .object) ∧
      List.Forall₂ SubroutineGroup.IsGivenBy shader.groups objects)]

/-- The keys that no object of a general shader leaves out. -/
def requiredKeys : List String := ["name", "vertex_source_path", "fragment_source_path"]

/-- The members of an object give a general shader. A list may be left out if it is empty. -/
structure IsGivenBy (shader : GeneralShader) (members : List (String × Value)) : Prop where
  isPartial : IsPartial shader.givenFields members
  required : ∀ key ∈ requiredKeys, key ∈ members.map Prod.fst
  attributes : "attributes" ∈ members.map Prod.fst ∨ shader.attributes = []
  uniforms : "uniforms" ∈ members.map Prod.fst ∨ shader.uniforms = []
  groups : "subroutines" ∈ members.map Prod.fst ∨ shader.groups = []

/-- What a record is after the members of an object that gives fields of `shader`. -/
def withGiven (shader record : GeneralShader) (members : List (String × Value)) :
    GeneralShader where
  name := fieldOr (fun _ => some shader.name) members "name" record.name
  vertexPath :=
    fieldOr (fun _ => some shader.vertexPath) members "vertex_source_path" record.vertexPath
  fragmentPath :=
    fieldOr (fun _ => some shader.fragmentPath) members "fragment_source_path" record.fragmentPath
  attributes := fieldOr (fun _ => some shader.attributes) members "attributes" record.attributes
  uniforms := fieldOr (fun _ => some shader.uniforms) members "uniforms" record.uniforms
  groups := fieldOr (fun _ => some shader.groups) members "subroutines" record.groups

theorem merges (shader : GeneralShader) :
    Merges Slot.key Slot.Takes shader.givenFields slots shader.withGiven where
  distinct := show ["name", "vertex_source_path", "fragment_source_path", "attributes", "uniforms",
    "subroutines"].Nodup by decide
  nil _ := rfl
  other key value members record hKey := by
    simp only [givenFields, List.map_cons, List.map_nil, List.mem_cons, List.not_mem_nil, or_false,
      not_or] at hKey
    simp [withGiven, hKey]
  parts := by
    iterate 3
      refine .cons ⟨rfl, ?_⟩ ?_
      · rintro _ members record rfl hAbsent
        refine ⟨_, Slot.takes_text _ record, ?_⟩
        simp [withGiven, fieldOr_of_absent hAbsent]
    iterate 2
      refine .cons ⟨rfl, ?_⟩ ?_
      · rintro _ members record rfl hAbsent
        refine ⟨_, Slot.takes_texts _ record, ?_⟩
        simp [withGiven, fieldOr_of_absent hAbsent]
    refine .cons ⟨rfl, ?_⟩ .nil
    rintro _ members record ⟨objects, rfl, hGroups⟩ hAbsent
    have hDecode : decodeList SubroutineGroup.decode (.list (objects.map .object)) =
        .ok shader.groups := by
      apply decodeList_of_forall₂
      rw [List.forall₂_map_left_iff]
      exact hGroups.flip.imp fun _ _ => SubroutineGroup.decode_of_isGivenBy
    refine ⟨_, Slot.takes_ofDecoder hDecode record, ?_⟩
    simp [withGiven, fieldOr_of_absent hAbsent]

theorem requires : Slot.Requires slots requiredKeys := by
  simp [Slot.Requires, requiredKeys, slots, Slot.text, Slot.texts, Slot.ofDecoder]

theorem decode_of_isGivenBy {shader : GeneralShader} {members : List (String × Value)}
    (hGiven : shader.IsGivenBy members) : decode (.object members) = .ok shader := by
  have hDecode := decodeMembers_of_isPartial shader.merges requires hGiven.isPartial hGiven.required
    ⟨"", "", "", [], [], []⟩
  have hShader : shader.withGiven ⟨"", "", "", [], [], []⟩ members = shader := by
    simp [withGiven, fieldOr_of_mem_or_eq (.inl (hGiven.required "name" (by decide))),
      fieldOr_of_mem_or_eq (.inl (hGiven.required "vertex_source_path" (by decide))),
      fieldOr_of_mem_or_eq (.inl (hGiven.required "fragment_source_path" (by decide))),
      fieldOr_of_mem_or_eq hGiven.attributes, fieldOr_of_mem_or_eq hGiven.uniforms,
      fieldOr_of_mem_or_eq hGiven.groups]
  rw [hShader] at hDecode
  exact hDecode

theorem IsGivenBy.within? {shader : GeneralShader} {members : List (String × Value)}
    (hGiven : shader.IsGivenBy members) :
    ∀ member ∈ members, member.2.within? Shader.partDepth = some member.2 := by
  apply hGiven.isPartial.within?
  simp only [givenFields, List.forall_mem_cons, List.not_mem_nil, false_imp_iff, implies_true,
    and_true, forall_eq]
  refine ⟨Value.within?_string _ _, Value.within?_string _ _, Value.within?_string _ _,
    Value.within?_texts _ _, Value.within?_texts _ _, ?_⟩
  rintro _ ⟨objects, rfl, hGroups⟩
  apply Value.within?_list
  intro element hElement
  obtain ⟨object, hObject, rfl⟩ := List.mem_map.mp hElement
  obtain ⟨group, -, hGroup⟩ := exists_mem_of_forall₂ hGroups.flip hObject
  exact hGroup.within? _

end GeneralShader

/-! ## Simple shaders -/

namespace SimpleShader

/-- The fields of the object of a simple shader, with the values that they have there. -/
def givenFields (shader : SimpleShader) : List (String × (Value → Prop)) :=
  [("name", (· = .string shader.name)),
    ("fragment_source_path", (· = .string shader.fragmentPath))]

/-- The keys that no object of a simple shader leaves out. -/
def requiredKeys : List String := ["name", "fragment_source_path"]

/-- The members of an object give a simple shader. -/
structure IsGivenBy (shader : SimpleShader) (members : List (String × Value)) : Prop where
  isPartial : IsPartial shader.givenFields members
  required : ∀ key ∈ requiredKeys, key ∈ members.map Prod.fst

/-- What a record is after the members of an object that gives fields of `shader`. -/
def withGiven (shader record : SimpleShader) (members : List (String × Value)) : SimpleShader where
  name := fieldOr (fun _ => some shader.name) members "name" record.name
  fragmentPath :=
    fieldOr (fun _ => some shader.fragmentPath) members "fragment_source_path" record.fragmentPath

theorem merges (shader : SimpleShader) :
    Merges Slot.key Slot.Takes shader.givenFields slots shader.withGiven where
  distinct := show ["name", "fragment_source_path"].Nodup by decide
  nil _ := rfl
  other key value members record hKey := by
    simp only [givenFields, List.map_cons, List.map_nil, List.mem_cons, List.not_mem_nil, or_false,
      not_or] at hKey
    simp [withGiven, hKey]
  parts := by
    iterate 2
      refine .cons ⟨rfl, ?_⟩ ?_
      · rintro _ members record rfl hAbsent
        refine ⟨_, Slot.takes_text _ record, ?_⟩
        simp [withGiven, fieldOr_of_absent hAbsent]
    exact .nil

theorem requires : Slot.Requires slots requiredKeys := by
  simp [Slot.Requires, requiredKeys, slots, Slot.text, Slot.ofDecoder]

theorem decode_of_isGivenBy {shader : SimpleShader} {members : List (String × Value)}
    (hGiven : shader.IsGivenBy members) : decode (.object members) = .ok shader := by
  have hDecode := decodeMembers_of_isPartial shader.merges requires hGiven.isPartial hGiven.required
    ⟨"", ""⟩
  have hShader : shader.withGiven ⟨"", ""⟩ members = shader := by
    simp [withGiven, fieldOr_of_mem_or_eq (.inl (hGiven.required "name" (by decide))),
      fieldOr_of_mem_or_eq (.inl (hGiven.required "fragment_source_path" (by decide)))]
  rw [hShader] at hDecode
  exact hDecode

theorem IsGivenBy.within? {shader : SimpleShader} {members : List (String × Value)}
    (hGiven : shader.IsGivenBy members) :
    ∀ member ∈ members, member.2.within? Shader.partDepth = some member.2 := by
  apply hGiven.isPartial.within?
  simp only [givenFields, List.forall_mem_cons, List.not_mem_nil, false_imp_iff, implies_true,
    and_true, forall_eq]
  exact ⟨Value.within?_string _ _, Value.within?_string _ _⟩

end SimpleShader

end ShaderHandles
