import ShaderHandles.Proofs.Json.Compact
import ShaderHandles.Proofs.Registry.Spelling
import ShaderHandles.Proofs.Settings.Override

/-!
# Documents are read back

Registries and settings are what their documents say: reading the document of a registry or of
settings gives the registry or the settings again, whatever texts stand in their fields. The document
that is written is one of those that the reader takes for them, with every key and in compact form.

* `Settings.parse_document`: settings.
* `Shader.members_give`: the object that is written for a shader gives it.
* `Registry.parse_document`: registries.
* `documents_read_back`: both.
-/

namespace ShaderHandles

open Json

/-! ## Settings -/

/-- The members of the object that is written for a record. -/
def keyMembers {σ : Type} (keys : List (Key σ)) (record : σ) : List (String × Value) :=
  keys.map fun key => (key.name, key.value record)

theorem isSpelled_writeRecord {σ : Type} {keys : List (Key σ)} {record : σ}
    (hKeys : ∀ key ∈ keys, (key.value record).IsSpelled) : (writeRecord keys record).IsSpelled := by
  apply Value.isSpelled_object
  intro member hMember
  obtain ⟨key, hKey, rfl⟩ := List.mem_map.mp hMember
  exact hKeys key hKey

namespace Api

theorem keyMembers_isPartial (api : Api) : IsPartial fields (keyMembers keys api) := by
  apply IsPartial.of_forall₂ merges.distinct
  iterate 10 refine .cons ⟨rfl, _, rfl⟩ ?_
  exact .nil

theorem override_keyMembers (start api : Api) : start.override (keyMembers keys api) = api := by
  simp [override, keyMembers, keys, Key.text, Key.ofReader]

theorem isSpelled (api : Api) : (writeRecord keys api).IsSpelled := by
  apply isSpelled_writeRecord
  simp [keys, Key.text, Key.ofReader, Value.isSpelled_string]

end Api

namespace Layout

theorem keyMembers_isPartial (layout : Layout) : IsPartial fields (keyMembers keys layout) := by
  apply IsPartial.of_forall₂ merges.distinct
  iterate 5 refine .cons ⟨rfl, _, rfl⟩ ?_
  exact .nil

theorem override_keyMembers (start layout : Layout) :
    start.override (keyMembers keys layout) = layout := by
  simp [override, keyMembers, keys, Key.text, Key.ofReader]

theorem isSpelled (layout : Layout) : (writeRecord keys layout).IsSpelled := by
  apply isSpelled_writeRecord
  simp [keys, Key.text, Key.ofReader, Value.isSpelled_string]

end Layout

namespace Output

theorem keyMembers_isPartial (output : Output) : IsPartial fields (keyMembers keys output) := by
  apply IsPartial.of_forall₂ merges.distinct
  iterate 5 refine .cons ⟨rfl, _, rfl⟩ ?_
  exact .nil

theorem override_keyMembers (start output : Output) :
    start.override (keyMembers keys output) = output := by
  simp [override, keyMembers, keys, Key.text, Key.texts, Key.ofReader]

theorem isSpelled (output : Output) : (writeRecord keys output).IsSpelled := by
  apply isSpelled_writeRecord
  simp [keys, Key.text, Key.texts, Key.ofReader, Value.isSpelled_string, Value.isSpelled_texts]

end Output

namespace Settings

theorem keyMembers_isPartial (settings : Settings) :
    IsPartial fields (keyMembers keys settings) := by
  apply IsPartial.of_forall₂ merges.distinct
  refine .cons ⟨rfl, _, rfl⟩ ?_
  refine .cons ⟨rfl, _, rfl, settings.api.keyMembers_isPartial⟩ ?_
  refine .cons ⟨rfl, _, rfl, settings.layout.keyMembers_isPartial⟩ ?_
  refine .cons ⟨rfl, _, rfl, settings.output.keyMembers_isPartial⟩ ?_
  exact .cons ⟨rfl, _, rfl⟩ .nil

theorem override_keyMembers (start settings : Settings) :
    start.override (keyMembers keys settings) = settings := by
  have hApi := Api.override_keyMembers {} settings.api
  have hLayout := Layout.override_keyMembers {} settings.layout
  have hOutput := Output.override_keyMembers {} settings.output
  simp only [keyMembers] at hApi hLayout hOutput
  simp [override, keyMembers, keys, Key.text, Key.flag, Key.ofRecord, Key.ofReader, writeRecord,
    hApi, hLayout, hOutput]

theorem isSpelled (settings : Settings) : (writeRecord keys settings).IsSpelled := by
  apply isSpelled_writeRecord
  simp [keys, Key.text, Key.flag, Key.ofRecord, Key.ofReader, Value.isSpelled_string,
    Value.isSpelled_boolean, settings.api.isSpelled, settings.layout.isSpelled,
    settings.output.isSpelled]

theorem parse_document (settings : Settings) : parse settings.document = .ok settings := by
  have hReads := reads_readRecord merges "GeneratorSettings" {} settings.keyMembers_isPartial
  rw [override_keyMembers] at hReads
  exact hReads.readAll_eq_ok (Value.laidOut_text settings.isSpelled)

end Settings

/-! ## Shaders -/

theorem isSpelled_slotMembers {σ : Type} {slots : List (Slot σ)} {record : σ}
    (hSlots : ∀ slot ∈ slots, (slot.value record).IsSpelled) :
    ∀ member ∈ slotMembers slots record, member.2.IsSpelled := by
  intro member hMember
  obtain ⟨slot, hSlot, rfl⟩ := List.mem_map.mp hMember
  exact hSlots slot hSlot

namespace SubroutineGroup

theorem slotMembers_give (group : SubroutineGroup) : group.IsGivenBy (slotMembers slots group) where
  isPartial := by
    apply IsPartial.of_forall₂ group.merges.distinct
    exact .cons ⟨rfl, rfl⟩ (.cons ⟨rfl, rfl⟩ .nil)
  required key hKey := hKey

theorem isSpelled (group : SubroutineGroup) : group.value.IsSpelled := by
  apply Value.isSpelled_object
  apply isSpelled_slotMembers
  simp [slots, Slot.text, Slot.texts, Slot.ofDecoder, Value.isSpelled_string, Value.isSpelled_texts]

end SubroutineGroup

namespace GeneralShader

theorem slotMembers_give (shader : GeneralShader) :
    shader.IsGivenBy (slotMembers slots shader) where
  isPartial := by
    apply IsPartial.of_forall₂ shader.merges.distinct
    iterate 5 refine .cons ⟨rfl, rfl⟩ ?_
    refine .cons ⟨rfl, shader.groups.map (slotMembers SubroutineGroup.slots), ?_, ?_⟩ .nil
    · exact congrArg Value.list (List.map_map ..).symm
    · rw [List.forall₂_map_right_iff]
      exact List.forall₂_same.mpr fun group _ => group.slotMembers_give
  required key hKey := List.mem_append_left ["attributes", "uniforms", "subroutines"] hKey
  attributes := .inl (by simp [slotMembers, slots, Slot.text, Slot.texts, Slot.ofDecoder])
  uniforms := .inl (by simp [slotMembers, slots, Slot.text, Slot.texts, Slot.ofDecoder])
  groups := .inl (by simp [slotMembers, slots, Slot.text, Slot.texts, Slot.ofDecoder])

theorem isSpelled (shader : GeneralShader) :
    ∀ member ∈ slotMembers slots shader, member.2.IsSpelled := by
  apply isSpelled_slotMembers
  have hGroups : (Value.list (shader.groups.map SubroutineGroup.value)).IsSpelled := by
    apply Value.isSpelled_list
    intro element hElement
    obtain ⟨group, -, rfl⟩ := List.mem_map.mp hElement
    exact group.isSpelled
  simp [slots, Slot.text, Slot.texts, Slot.ofDecoder, Value.isSpelled_string, Value.isSpelled_texts,
    hGroups]

end GeneralShader

namespace SimpleShader

theorem slotMembers_give (shader : SimpleShader) : shader.IsGivenBy (slotMembers slots shader) where
  isPartial := by
    apply IsPartial.of_forall₂ shader.merges.distinct
    exact .cons ⟨rfl, rfl⟩ (.cons ⟨rfl, rfl⟩ .nil)
  required key hKey := hKey

theorem isSpelled (shader : SimpleShader) :
    ∀ member ∈ slotMembers slots shader, member.2.IsSpelled := by
  apply isSpelled_slotMembers
  simp [slots, Slot.text, Slot.ofDecoder, Value.isSpelled_string]

end SimpleShader

namespace Shader

/-- The members of a shader's object behind the kind. -/
def parts : Shader → List (String × Value)
  | general shader => slotMembers GeneralShader.slots shader
  | simple shader => slotMembers SimpleShader.slots shader

def members (shader : Shader) : List (String × Value) :=
  ("kind", .string shader.kind.word) :: shader.parts

theorem value_eq (shader : Shader) : shader.value = .object shader.members := by
  cases shader <;> rfl

theorem parts_give (shader : Shader) : shader.FieldsGivenBy shader.parts := by
  cases shader with
  | general shader => exact shader.slotMembers_give
  | simple shader => exact shader.slotMembers_give

theorem members_give (shader : Shader) : shader.IsGivenBy shader.members := by
  have hKeys : ∀ member ∈ shader.parts, member.1 ≠ "kind" := by
    have hParts : "kind" ∉ shader.parts.map Prod.fst := by
      cases shader with
      | general shader => exact show "kind" ∉ GeneralShader.slots.map Slot.key by decide
      | simple shader => exact show "kind" ∉ SimpleShader.slots.map Slot.key by decide
    rintro member hMember hKey
    exact hParts (hKey ▸ List.mem_map_of_mem hMember)
  have hKind : shader.parts.filter (·.1 == "kind") = [] := by
    simpa [List.filter_eq_nil_iff] using fun key value hMember => hKeys (key, value) hMember
  have hOthers : otherMembers shader.members = shader.parts := by
    rw [otherMembers, members, List.filter_cons_of_neg (by simp), List.filter_eq_self]
    simpa using fun key value hMember => hKeys (key, value) hMember
  refine ⟨?_, ?_⟩
  · rw [members, List.filter_cons_of_pos (by rfl), hKind]
  · rw [hOthers]
    exact shader.parts_give

theorem isSpelled (shader : Shader) : shader.value.IsSpelled := by
  rw [value_eq]
  apply Value.isSpelled_object
  rw [members, List.forall_mem_cons]
  refine ⟨Value.isSpelled_string _, ?_⟩
  cases shader with
  | general shader => exact shader.isSpelled
  | simple shader => exact shader.isSpelled

end Shader

/-! ## Documents -/

theorem Registry.parse_document (registry : Registry) :
    Registry.parse registry.document = .ok registry := by
  have hObjects : registry.toList.map Shader.value =
      (registry.toList.map Shader.members).map .object := by
    rw [List.map_map]
    exact List.map_congr_left fun shader _ => shader.value_eq
  have hText : LaidOut (Value.list (registry.toList.map Shader.value)).tokens
      registry.document.toList := by
    apply Value.laidOut_text
    apply Value.isSpelled_list
    intro element hElement
    obtain ⟨shader, -, rfl⟩ := List.mem_map.mp hElement
    exact shader.isSpelled
  rw [hObjects] at hText
  apply parse_of_isGivenBy hText
  rw [List.forall₂_map_right_iff]
  exact List.forall₂_same.mpr fun shader _ => shader.members_give

/-- Documents lose nothing: the document of a registry is read as the registry, and the document of
settings as the settings, with no condition on the names, paths and other texts in them. -/
theorem documents_read_back :
    (∀ registry : Registry, Registry.parse registry.document = .ok registry) ∧
      ∀ settings : Settings, Settings.parse settings.document = .ok settings :=
  ⟨Registry.parse_document, Settings.parse_document⟩

/-- In the document of a shader its kind is the first member. -/
example : Shader.document (.simple ⟨"glow", "glow.frag"⟩) =
    "\x7b\"kind\":\"simple\",\"name\":\"glow\",\"fragment_source_path\":\"glow.frag\"\x7d" :=
  rfl

end ShaderHandles
