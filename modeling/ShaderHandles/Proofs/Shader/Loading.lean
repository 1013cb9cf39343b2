import ShaderHandles.Proofs.C.Machine
import ShaderHandles.Proofs.Shader.Trees

/-!
# Loading one shader

The block of a shader in the load routine asks for the program first, then for everything that hangs
on it. No later assignment of the block hits a handle that has been assigned before, the program's
least of all, so at the end every handle holds the answer to a request of its own.

* `GeneralShader.request`: the request that resolves a field.
* `GeneralShader.Resolved`, `GeneralShader.Guarded`, `GeneralShader.Loaded`: the events of one field,
  of the guarded part and of a whole block, with the handles that they leave.
* `GeneralShader.WellFormed.runBody_loadTrees`: the block of a well-formed shader loads it.
-/

namespace ShaderHandles

/-! ## Handles -/

/-- The handles of the container, by the names of the members that lead to them. -/
abbrev Handles := List String → UInt32

/-- Only handles at some places differ. -/
def ChangedAt (places : List (List String)) (before after : Handles) : Prop :=
  ∀ place ∉ places, after place = before place

namespace ChangedAt

variable {first second : List (List String)} {before middle after : Handles}

theorem refl (handles : Handles) : ChangedAt [] handles handles := fun _ _ => rfl

theorem append (hFirst : ChangedAt first before middle) (hSecond : ChangedAt second middle after) :
    ChangedAt (first ++ second) before after := by
  intro place hPlace
  rw [List.mem_append, not_or] at hPlace
  rw [hSecond place hPlace.2, hFirst place hPlace.1]

theorem update (place : List String) (handle : UInt32) (before : Handles) :
    ChangedAt [place] before (Function.update before place handle) := by
  intro other hOther
  exact Function.update_of_ne (fun hEq => hOther (List.mem_singleton.mpr hEq)) _ _

end ChangedAt

namespace GeneralShader

/-! ## Requests -/

/-- The request that resolves a field, with the program that the container holds. -/
def request (shader : GeneralShader) (handles : Handles) : Field → C.Request
  | .program => ⟨"gl_program_vert_frag", [.text shader.vertexPath, .text shader.fragmentPath]⟩
  | .vertexAttribute name => ⟨"glGetAttribLocation", [program, .text name]⟩
  | .uniform name => ⟨"glGetUniformLocation", [program, .text name]⟩
  | .selector group => ⟨"glGetSubroutineUniformLocation", [program, stage, .text group]⟩
  | .variant _ name => ⟨"glGetSubroutineIndex", [program, stage, .text name]⟩
where
  program : C.Value := .handle (handles (shader.placeOf .program))
  stage : C.Value := .constant "GL_FRAGMENT_SHADER"

def capabilityRequest : C.Request := ⟨"gl_has", [.constant "OPENGL_SUBROUTINES"]⟩

/-- The request depends on the handle of the program only. -/
theorem request_congr {shader : GeneralShader} {before after : Handles} (field : Field)
    (hProgram : after (shader.placeOf .program) = before (shader.placeOf .program)) :
    shader.request after field = shader.request before field := by
  cases field <;> simp only [request, request.program, hProgram]

/-! ## Events -/

/-- An event asks for a field, and the field holds the answer. -/
structure Resolved (shader : GeneralShader) (handles : Handles) (field : Field)
    (event : C.Event) : Prop where
  request : event.request = shader.request handles field
  answer : handles (shader.placeOf field) = event.answer

/-- One event for each of some fields, in their order. -/
abbrev Resolves (shader : GeneralShader) (handles : Handles) (fields : List Field)
    (events : List C.Event) : Prop :=
  List.Forall₂ (shader.Resolved handles) fields events

/-- The events of the guarded part of a block. Without the capability the handles of the subroutine
groups are zero. -/
inductive Guarded (shader : GeneralShader) (handles : Handles) : List C.Event → Prop where
  | plain (hGroups : shader.groups = []) : Guarded shader handles []
  | granted {answer : UInt32} {events : List C.Event} (hGroups : shader.groups ≠ [])
    (hAnswer : answer ≠ 0) (hEvents : shader.Resolves handles shader.subroutineFields events) :
    Guarded shader handles (⟨capabilityRequest, answer⟩ :: events)
  | refused (hGroups : shader.groups ≠ [])
    (hZero : ∀ field ∈ shader.subroutineFields, handles (shader.placeOf field) = 0) :
    Guarded shader handles [⟨capabilityRequest, 0⟩]

/-- The events of a shader's block, and the handles that they leave. -/
inductive Loaded (shader : GeneralShader) (handles : Handles) : List C.Event → Prop where
  | intro {plain guarded : List C.Event}
    (hPlain : shader.Resolves handles shader.plainFields plain)
    (hGuarded : shader.Guarded handles guarded) : Loaded shader handles (plain ++ guarded)

section

variable {shader : GeneralShader} {before after : Handles} {field : Field} {event : C.Event}
  {fields : List Field} {events : List C.Event}

theorem Resolved.congr (h : shader.Resolved before field event)
    (hProgram : after (shader.placeOf .program) = before (shader.placeOf .program))
    (hField : after (shader.placeOf field) = before (shader.placeOf field)) :
    shader.Resolved after field event where
  request := h.request.trans (request_congr field hProgram).symm
  answer := hField.trans h.answer

theorem Resolves.congr (h : shader.Resolves before fields events)
    (hProgram : after (shader.placeOf .program) = before (shader.placeOf .program))
    (hFields : ∀ field ∈ fields, after (shader.placeOf field) = before (shader.placeOf field)) :
    shader.Resolves after fields events := by
  induction h with
  | nil => exact .nil
  | cons hFirst _ ih =>
    refine .cons (hFirst.congr hProgram (hFields _ List.mem_cons_self)) (ih ?_)
    exact fun field hField => hFields field (List.mem_cons_of_mem _ hField)

theorem Guarded.congr (h : shader.Guarded before events)
    (hProgram : after (shader.placeOf .program) = before (shader.placeOf .program))
    (hFields : ∀ field ∈ shader.subroutineFields,
      after (shader.placeOf field) = before (shader.placeOf field)) :
    shader.Guarded after events := by
  cases h with
  | plain hGroups => exact .plain hGroups
  | granted hGroups hAnswer hEvents =>
    exact .granted hGroups hAnswer (hEvents.congr hProgram hFields)
  | refused hGroups hZero =>
    refine .refused hGroups ?_
    intro field hField
    rw [hFields field hField, hZero field hField]

/-- A loaded shader stays loaded while its own handles stay. -/
theorem Loaded.congr (h : shader.Loaded before events)
    (hFields : ∀ field ∈ shader.fields, after (shader.placeOf field) = before (shader.placeOf field)) :
    shader.Loaded after events := by
  obtain ⟨hPlain, hGuarded⟩ := h
  have hProgram := hFields .program shader.program_mem_fields
  refine .intro (hPlain.congr hProgram ?_) (hGuarded.congr hProgram ?_)
  · intro field hField
    exact hFields field (List.mem_append_left _ hField)
  · intro field hField
    exact hFields field (List.mem_append_right _ hField)

end

/-! ## Runs -/

section

variable {shader : GeneralShader} {graphics : C.Graphics} {state : C.State} {field : Field}
  {fields : List Field}

/-- The state after the assignment of a field. -/
def resolve (shader : GeneralShader) (graphics : C.Graphics) (field : Field)
    (state : C.State) : C.State :=
  let request := shader.request state.handles field
  (state.ask graphics request).store (shader.placeOf field) (graphics state.events request)

theorem request_loadCall (shader : GeneralShader) (field : Field) (state : C.State) :
    (shader.loadCall field).request "shaders" state = some (shader.request state.handles field) := by
  cases field <;>
    simp [C.Call.request, loadCall, loadCall.stageCall, programPlace, fieldPlace, C.Argument.value,
      request, request.program, request.stage, placeOf]

theorem run_loadTree (shader : GeneralShader) (graphics : C.Graphics) (field : Field)
    (state : C.State) :
    (shader.loadTree field).run graphics "shaders" state =
      some (shader.resolve graphics field state) := by
  have hTarget : (shader.fieldPlace field).root = "shaders" ∧ (shader.fieldPlace field).members ≠ [] :=
    ⟨rfl, List.cons_ne_nil _ _⟩
  rw [loadTree, C.Statement.run, if_pos hTarget, request_loadCall]
  rfl

/-- Statements of the load routine resolve some fields and change no other handles. -/
structure Loads (shader : GeneralShader) (fields : List Field) (happened : List C.Event)
    (state final : C.State) : Prop where
  events : final.events = state.events ++ happened
  resolves : shader.Resolves final.handles fields happened
  changed : ChangedAt (fields.map shader.placeOf) state.handles final.handles

namespace Loads

variable {middle final : C.State} {others : List Field} {happened after : List C.Event}

/-- An assignment resolves its field. It cannot change the program for a look-up. -/
theorem one (hField : field = .program ∨ shader.placeOf .program ≠ shader.placeOf field)
    (state : C.State) :
    ∃ happened, shader.Loads [field] happened state (shader.resolve graphics field state) := by
  refine ⟨_, rfl, .cons ⟨?_, Function.update_self _ _ _⟩ .nil, .update _ _ _⟩
  rcases hField with rfl | hField
  · rfl
  · exact (request_congr field (Function.update_of_ne hField _ _)).symm

/-- Later assignments neither change the program nor what has been resolved before. -/
theorem append (hFirst : shader.Loads fields happened state middle)
    (hSecond : shader.Loads others after middle final)
    (hProgram : shader.placeOf .program ∉ others.map shader.placeOf)
    (hPlaces : ((fields ++ others).map shader.placeOf).Nodup) :
    shader.Loads (fields ++ others) (happened ++ after) state final where
  events := by rw [hSecond.events, hFirst.events, List.append_assoc]
  resolves := by
    rw [List.map_append, List.nodup_append] at hPlaces
    refine List.rel_append (hFirst.resolves.congr ?_ ?_) hSecond.resolves
    · exact hSecond.changed _ hProgram
    · intro field hField
      refine hSecond.changed _ fun hMem => ?_
      exact hPlaces.2.2 _ (List.mem_map_of_mem hField) _ hMem rfl
  changed := by
    rw [List.map_append]
    exact hFirst.changed.append hSecond.changed

end Loads

/-- Assignments to some fields run to their end and resolve these fields. -/
def Runs (shader : GeneralShader) (graphics : C.Graphics) (fields : List Field) : Prop :=
  ∀ state, ∃ happened final,
    C.runBody graphics "shaders" (fields.map shader.loadTree) state = some final ∧
      shader.Loads fields happened state final

namespace Runs

theorem nil : shader.Runs graphics [] := by
  intro state
  exact ⟨[], state, rfl, (List.append_nil _).symm, .nil, .refl _⟩

theorem cons (hField : field = .program ∨ shader.placeOf .program ≠ shader.placeOf field)
    (hProgram : shader.placeOf .program ∉ fields.map shader.placeOf)
    (hPlaces : ((field :: fields).map shader.placeOf).Nodup) (hFields : shader.Runs graphics fields) :
    shader.Runs graphics (field :: fields) := by
  intro state
  obtain ⟨first, hFirst⟩ := Loads.one hField state
  obtain ⟨happened, final, hRun, hLoads⟩ := hFields (shader.resolve graphics field state)
  refine ⟨first ++ happened, final, ?_, hFirst.append hLoads hProgram hPlaces⟩
  rw [List.map_cons, C.runBody, run_loadTree, Option.bind_some, hRun]

/-- Look-ups with distinct places are resolved one after the other. -/
theorem lookups (hProgram : shader.placeOf .program ∉ fields.map shader.placeOf)
    (hPlaces : (fields.map shader.placeOf).Nodup) : shader.Runs graphics fields := by
  induction fields with
  | nil => exact nil
  | cons field rest ih =>
    have hField := List.ne_of_not_mem_cons hProgram
    have hRest := List.not_mem_of_not_mem_cons hProgram
    exact cons (Or.inr hField) hRest hPlaces (ih hRest (List.nodup_cons.mp hPlaces).2)

end Runs

/-- The program comes before everything that is looked up in it. -/
theorem WellFormed.runs_plainFields (h : shader.WellFormed) :
    shader.Runs graphics shader.plainFields := by
  obtain ⟨lookups, hFields⟩ : ∃ lookups, shader.plainFields = .program :: lookups := ⟨_, rfl⟩
  have hPlaces : (shader.plainFields.map shader.placeOf).Nodup :=
    (List.nodup_append.mp (List.map_append ▸ h.placeOf_nodup)).1
  rw [hFields] at hPlaces ⊢
  obtain ⟨hProgram, hLookups⟩ := List.nodup_cons.mp hPlaces
  exact .cons (Or.inl rfl) hProgram hPlaces (.lookups hProgram hLookups)

theorem request_capabilityCall (state : C.State) :
    capabilityCall.request "shaders" state = some capabilityRequest := by
  simp [C.Call.request, capabilityCall, C.Argument.value, capabilityRequest]

/-- The check asks for the capability first. -/
theorem run_guardedTrees (hGroups : shader.groups ≠ []) (state : C.State) :
    C.runBody graphics "shaders" shader.guardedTrees state =
      if graphics state.events capabilityRequest = 0 then some (state.ask graphics capabilityRequest)
      else C.runBody graphics "shaders" (shader.subroutineFields.map shader.loadTree)
        (state.ask graphics capabilityRequest) := by
  have hTrees : shader.guardedTrees =
      [.check capabilityCall (shader.subroutineFields.map shader.loadTree)] :=
    if_neg (by rwa [List.isEmpty_iff])
  rw [hTrees, C.runBody_singleton, C.Statement.run, request_capabilityCall, Option.bind_some]

namespace WellFormed

theorem subroutinePlaces_nodup (h : shader.WellFormed) :
    (shader.subroutineFields.map shader.placeOf).Nodup :=
  (List.nodup_append.mp (List.map_append ▸ h.placeOf_nodup)).2.1

theorem placeOf_not_mem_subroutinePlaces (h : shader.WellFormed) (hField : field ∈ shader.plainFields) :
    shader.placeOf field ∉ shader.subroutineFields.map shader.placeOf := by
  have hPlaces := h.placeOf_nodup
  rw [fields, List.map_append] at hPlaces
  intro hMem
  exact (List.nodup_append.mp hPlaces).2.2 _ (List.mem_map_of_mem hField) _ hMem rfl

/-- The guarded part of a block, provided that the handles of the subroutine groups are zero
before. -/
theorem runBody_guardedTrees (h : shader.WellFormed)
    (hZero : ∀ field ∈ shader.subroutineFields, state.handles (shader.placeOf field) = 0) :
    ∃ happened final, C.runBody graphics "shaders" shader.guardedTrees state = some final ∧
      final.events = state.events ++ happened ∧ shader.Guarded final.handles happened ∧
        ChangedAt (shader.subroutineFields.map shader.placeOf) state.handles final.handles := by
  by_cases hGroups : shader.groups = []
  · have hNone : shader.guardedTrees = [] := if_pos (List.isEmpty_iff.mpr hGroups)
    rw [hNone]
    exact ⟨[], state, rfl, (List.append_nil _).symm, .plain hGroups, fun _ _ => rfl⟩
  · rw [run_guardedTrees hGroups]
    split
    case isTrue hAnswer =>
      refine ⟨[⟨capabilityRequest, 0⟩], _, rfl, ?_, .refused hGroups hZero, fun _ _ => rfl⟩
      rw [C.State.ask, hAnswer]
    case isFalse hAnswer =>
      have hProgram := h.placeOf_not_mem_subroutinePlaces List.mem_cons_self
      obtain ⟨happened, final, hRun, hLoads⟩ := Runs.lookups hProgram h.subroutinePlaces_nodup
        (state.ask graphics capabilityRequest)
      refine ⟨_, final, hRun, ?_, .granted hGroups hAnswer hLoads.resolves, hLoads.changed⟩
      rw [hLoads.events, C.State.ask, List.append_assoc]
      rfl

/-- The block of a well-formed shader loads it, provided that the handles of its subroutine groups
are zero before. -/
theorem runBody_loadTrees (h : shader.WellFormed)
    (hZero : ∀ field ∈ shader.subroutineFields, state.handles (shader.placeOf field) = 0) :
    ∃ happened final, C.runBody graphics "shaders" shader.loadTrees state = some final ∧
      final.events = state.events ++ happened ∧ shader.Loaded final.handles happened ∧
        ChangedAt (shader.fields.map shader.placeOf) state.handles final.handles := by
  obtain ⟨plain, middle, hPlainRun, hPlain⟩ := h.runs_plainFields state
  have hStill : ∀ field ∈ shader.subroutineFields, middle.handles (shader.placeOf field) = 0 := by
    intro field hField
    rw [hPlain.changed _ ?_, hZero field hField]
    intro hMem
    obtain ⟨other, hOther, hEq⟩ := List.mem_map.mp hMem
    exact h.placeOf_not_mem_subroutinePlaces hOther (hEq ▸ List.mem_map_of_mem hField)
  obtain ⟨guarded, final, hGuardedRun, hEvents, hGuarded, hChanged⟩ := h.runBody_guardedTrees hStill
  -- The guarded part changes neither the program nor any other field of the shader's own struct.
  have hKept : ∀ field ∈ shader.plainFields,
      final.handles (shader.placeOf field) = middle.handles (shader.placeOf field) :=
    fun field hField => hChanged _ (h.placeOf_not_mem_subroutinePlaces hField)
  have hResolves := hPlain.resolves.congr (hKept .program List.mem_cons_self) hKept
  refine ⟨plain ++ guarded, final, ?_, ?_, .intro hResolves hGuarded, ?_⟩
  · rw [loadTrees, C.runBody_append, hPlainRun, Option.bind_some, hGuardedRun]
  · rw [hEvents, hPlain.events, List.append_assoc]
  · rw [fields, List.map_append]
    exact hPlain.changed.append hChanged

end WellFormed

end

end GeneralShader

end ShaderHandles
