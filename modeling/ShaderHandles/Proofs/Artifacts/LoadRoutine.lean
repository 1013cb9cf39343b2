import ShaderHandles.Proofs.Artifacts.Units
import ShaderHandles.Proofs.Shader.Loading

/-!
# The load routine populates the container

The blocks of the load routine come in the order of the registry. A block changes the handles of its
own shader only, so every shader stays loaded until the end of the routine, whatever the graphics
library answers.

* `Registry.Populated`: what the load routine leaves.
* `Registry.WellFormed.runBody_blocks`: the blocks of shaders with distinct places.
* `Registry.load_populates`: the load routine of an accepted registry populates the container.
-/

namespace ShaderHandles

theorem Shader.placeOf_mem_places {shader : Shader} {field : Field}
    (hField : field ∈ shader.expand.fields) : shader.expand.placeOf field ∈ shader.places := by
  rw [shader.places_eq]
  exact List.mem_map_of_mem hField

namespace Registry

/-- The state after the load routine: its events fall into one block for each shader, and there are
no other handles. -/
structure Populated (registry : Registry) (graphics : C.Graphics) (final : C.State) : Prop where
  history : C.History graphics final.events
  blocks : ∃ blocks, final.events = blocks.flatten ∧
    List.Forall₂ (fun shader block => shader.expand.Loaded final.handles block) registry.toList blocks
  elsewhere : ∀ place ∉ registry.places, final.handles place = 0

/-- Blocks with distinct places load their shaders one after the other. -/
theorem runBody_blocks {graphics : C.Graphics} {shaders : List Shader}
    (hWell : ∀ shader ∈ shaders, shader.expand.WellFormed)
    (hPlaces : (shaders.flatMap Shader.places).Nodup) (state : C.State)
    (hZero : ∀ place ∈ shaders.flatMap Shader.places, state.handles place = 0) :
    ∃ blocks final,
      C.runBody graphics "shaders" (shaders.flatMap fun shader => shader.expand.loadTrees) state =
          some final ∧
        final.events = state.events ++ blocks.flatten ∧
        List.Forall₂ (fun shader block => shader.expand.Loaded final.handles block) shaders blocks ∧
        ChangedAt (shaders.flatMap Shader.places) state.handles final.handles := by
  induction shaders generalizing state with
  | nil => exact ⟨[], state, rfl, (List.append_nil _).symm, .nil, .refl _⟩
  | cons shader rest ih =>
    rw [List.flatMap_cons] at hPlaces hZero ⊢
    obtain ⟨-, hRest, hApart⟩ := List.nodup_append.mp hPlaces
    have hShaderZero : ∀ field ∈ shader.expand.subroutineFields,
        state.handles (shader.expand.placeOf field) = 0 := fun field hField =>
      hZero _ (List.mem_append_left _
        (Shader.placeOf_mem_places (List.mem_append_right _ hField)))
    obtain ⟨block, middle, hRun, hEvents, hLoaded, hChanged⟩ :=
      (hWell shader List.mem_cons_self).runBody_loadTrees hShaderZero
    rw [← shader.places_eq] at hChanged
    have hMiddleZero : ∀ place ∈ rest.flatMap Shader.places, middle.handles place = 0 := by
      intro place hPlace
      rw [hChanged place fun hMem => hApart _ hMem _ hPlace rfl]
      exact hZero place (List.mem_append_right _ hPlace)
    obtain ⟨blocks, final, hRestRun, hRestEvents, hRestLoaded, hRestChanged⟩ :=
      ih (fun other hOther => hWell other (List.mem_cons_of_mem _ hOther)) hRest middle hMiddleZero
    have hStays : shader.expand.Loaded final.handles block := by
      refine hLoaded.congr fun field hField => hRestChanged _ fun hMem => ?_
      exact hApart _ (Shader.placeOf_mem_places hField) _ hMem rfl
    refine ⟨block :: blocks, final, ?_, ?_, .cons hStays hRestLoaded, ?_⟩
    · rw [C.runBody_append, hRun, Option.bind_some, hRestRun]
    · rw [hRestEvents, hEvents, List.flatten_cons, List.append_assoc]
    · exact hChanged.append hRestChanged

/-- The load routine runs to its end and populates the container. -/
theorem WellFormed.runBody_loadTrees {registry : Registry} (h : registry.WellFormed)
    (graphics : C.Graphics) :
    ∃ final, C.runBody graphics "shaders" registry.loadTrees .zero = some final ∧
      registry.Populated graphics final := by
  obtain ⟨blocks, final, hRun, hEvents, hLoaded, hChanged⟩ :=
    runBody_blocks h.shader h.places_nodup .zero fun _ _ => rfl
  exact ⟨final, hRun, C.body_history .nil hRun, ⟨blocks, hEvents, hLoaded⟩, hChanged⟩

/-- The load routine of an accepted registry populates the container, whatever the graphics library
answers. -/
theorem load_populates {registry : Registry} (hAccepted : registry.Accepted) :
    ∃ artifacts source, (({} : Settings).generate registry).result = .ok artifacts ∧
      C.readSource artifacts.implementation = some source ∧ source.load.name = "shaders_load" ∧
        ∀ graphics, ∃ final,
          C.runBody graphics source.object.name source.load.body .zero = some final ∧
            registry.Populated graphics final := by
  have hWell := accepted_iff_wellFormed.mp hAccepted
  refine ⟨_, registry.source, Settings.generate_default registry, hWell.readSource_eq, rfl, ?_⟩
  intro graphics
  exact hWell.runBody_loadTrees graphics

theorem load_populates_sample :
    sample.Accepted ∧ ∃ artifacts source,
      (({} : Settings).generate sample).result = .ok artifacts ∧
        C.readSource artifacts.implementation = some source ∧ source.load.name = "shaders_load" ∧
          ∀ graphics, ∃ final,
            C.runBody graphics source.object.name source.load.body .zero = some final ∧
              sample.Populated graphics final :=
  ⟨sample_accepted, load_populates sample_accepted⟩

end Registry

end ShaderHandles
