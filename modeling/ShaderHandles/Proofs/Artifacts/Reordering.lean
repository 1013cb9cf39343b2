import ShaderHandles.Proofs.Artifacts.Rounds
import ShaderHandles.Proofs.Registry.Order
import ShaderHandles.Proofs.Table

/-!
# The order of the shaders does not matter

A graphics library without memory answers a request in the same way whenever it is made. With such a
library the handle of every field is determined by its shader alone, so the load routines of two
registries that differ in the order of their shaders leave the same container, and their unload
routines release the same handles.

* `C.Graphics.ofAnswers`: a library without memory.
* `GeneralShader.handle`: the handle of a field, from the answers of such a library.
* `GeneralShader.Loaded.handle_eq`, `Registry.Populated.handle_eq`: it is what a load leaves.
* `Registry.WellFormed.runRound_determined`: a round is determined by the shaders and the answers.
* `Registry.reordered_resolves`: a registry in another order.
-/

namespace ShaderHandles

/-! ## Libraries without memory -/

namespace C

/-- A graphics library whose answer depends on the function and the arguments of a call only. -/
def Graphics.ofAnswers (answer : Request → UInt32) : Graphics := fun _ request => answer request

/-- In its history every event is the answer to its own request. -/
theorem History.answered {answer : Request → UInt32} {events : List Event}
    (h : History (.ofAnswers answer) events) :
    ∀ event ∈ events, event.answer = answer event.request := by
  induction h with
  | nil => exact fun event hEvent => absurd hEvent List.not_mem_nil
  | next request _ ih => exact List.forall_mem_append.mpr ⟨ih, List.forall_mem_singleton.mpr rfl⟩

/-- The handle that a call releases. -/
def Request.released? (request : Request) : Option UInt32 :=
  match request.function, request.arguments with
  | "glDeleteProgram", [.handle program] => some program
  | _, _ => none

/-- The handles that the unload routine of a round releases, in the order of its calls. -/
def Round.released (round : Round) : List UInt32 :=
  round.unload.filterMap fun event => event.request.released?

theorem Round.released_eq (round : Round) :
    round.released = (round.unload.map Event.request).filterMap Request.released? := by
  rw [released, List.filterMap_map]
  rfl

/-- A round starts where it is told to, with the load routine. -/
theorem Source.load_of_runRound {source : Source} {graphics : Graphics} {before : State}
    {round : Round} (hRun : source.runRound graphics before = some round) :
    round.before = before ∧
      runBody graphics source.object.name source.load.body before = some round.loaded := by
  obtain ⟨loaded, hLoad, hRest⟩ := Option.bind_eq_some_iff.mp hRun
  obtain ⟨unloaded, -, hRound⟩ := Option.bind_eq_some_iff.mp hRest
  cases hRound
  exact ⟨rfl, hLoad⟩

end C

/-! ## One shader -/

/-- Whether a field is resolved under the check of the capability. -/
def Field.isGuarded : Field → Bool
  | program | vertexAttribute _ | uniform _ => false
  | selector _ | variant _ _ => true

namespace GeneralShader

variable {shader : GeneralShader} {field : Field}

theorem isGuarded_of_mem_plainFields (hField : field ∈ shader.plainFields) :
    field.isGuarded = false := by
  simp only [plainFields, List.mem_append, List.mem_cons, List.mem_map] at hField
  rcases hField with (rfl | ⟨name, -, rfl⟩) | ⟨name, -, rfl⟩ <;> rfl

theorem isGuarded_of_mem_subroutineFields (hField : field ∈ shader.subroutineFields) :
    field.isGuarded = true := by
  simp only [subroutineFields, SubroutineGroup.fields, List.mem_flatMap, List.mem_cons,
    List.mem_map] at hField
  obtain ⟨group, -, rfl | ⟨name, -, rfl⟩⟩ := hField <;> rfl

section

variable {answer : C.Request → UInt32} {handles : Handles} {events : List C.Event}

/-- The handle of a field, from the answers of a library without memory. -/
def handle (shader : GeneralShader) (answer : C.Request → UInt32) (field : Field) : UInt32 :=
  if field.isGuarded = true ∧ answer capabilityRequest = 0 then 0
  else answer (shader.request (fun _ => answer shader.compileRequest) field)

/-- The handle of the program is the answer to the call that compiles it. -/
theorem handle_program (shader : GeneralShader) (answer : C.Request → UInt32) :
    shader.handle answer .program = answer shader.compileRequest :=
  if_neg fun h => nomatch h.1

/-- A field that has been resolved holds the answer to its request, which names the program. -/
theorem Resolves.answer_eq {fields : List Field} (h : shader.Resolves handles fields events)
    (hProgram : handles (shader.placeOf .program) = answer shader.compileRequest)
    (hAnswered : ∀ event ∈ events, event.answer = answer event.request) (hField : field ∈ fields) :
    handles (shader.placeOf field) =
      answer (shader.request (fun _ => answer shader.compileRequest) field) := by
  obtain ⟨event, hEvent, hResolved⟩ := exists_mem_of_forall₂ h hField
  have hRequest : shader.request handles field =
      shader.request (fun _ => answer shader.compileRequest) field := request_congr field hProgram
  rw [hResolved.answer, hAnswered event hEvent, hResolved.request, hRequest]

/-- The guarded part resolves its fields if the library has the capability. -/
theorem Guarded.handle_eq (h : shader.Guarded handles events)
    (hProgram : handles (shader.placeOf .program) = answer shader.compileRequest)
    (hAnswered : ∀ event ∈ events, event.answer = answer event.request)
    (hField : field ∈ shader.subroutineFields) :
    handles (shader.placeOf field) = shader.handle answer field := by
  cases h with
  | plain hGroups =>
    rw [subroutineFields, hGroups] at hField
    exact absurd hField List.not_mem_nil
  | granted _ hAnswer hEvents =>
    obtain ⟨hCapability, hRest⟩ := List.forall_mem_cons.mp hAnswered
    have hGranted : answer capabilityRequest ≠ 0 := fun hZero => hAnswer (hCapability.trans hZero)
    rw [handle, if_neg fun h => hGranted h.2]
    exact hEvents.answer_eq hProgram hRest hField
  | refused _ hZero =>
    have hRefused : 0 = answer capabilityRequest := hAnswered _ List.mem_cons_self
    rw [handle, if_pos ⟨isGuarded_of_mem_subroutineFields hField, hRefused.symm⟩, hZero field hField]

/-- A load leaves the handle that is determined by the shader and the answers. -/
theorem Loaded.handle_eq (h : shader.Loaded handles events)
    (hAnswered : ∀ event ∈ events, event.answer = answer event.request)
    (hField : field ∈ shader.fields) :
    handles (shader.placeOf field) = shader.handle answer field := by
  obtain ⟨hPlain, hGuarded⟩ := h
  obtain ⟨hPlainAnswered, hGuardedAnswered⟩ := List.forall_mem_append.mp hAnswered
  have hProgram : handles (shader.placeOf .program) = answer shader.compileRequest := by
    obtain ⟨event, hEvent, hResolved⟩ :=
      exists_mem_of_forall₂ hPlain (List.mem_cons_self : Field.program ∈ shader.plainFields)
    rw [hResolved.answer, hPlainAnswered event hEvent, hResolved.request]
    rfl
  rcases List.mem_append.mp hField with hField | hField
  · have hOpen : ¬(field.isGuarded = true ∧ answer capabilityRequest = 0) := by
      rw [isGuarded_of_mem_plainFields hField]
      exact fun h => nomatch h.1
    rw [handle, if_neg hOpen]
    exact hPlain.answer_eq hProgram hPlainAnswered hField
  · exact hGuarded.handle_eq hProgram hGuardedAnswered hField

end

end GeneralShader

/-! ## One registry -/

namespace Registry

open GeneralShader (releaseRequest)

section

variable {registry : Registry} {answer : C.Request → UInt32}

theorem Populated.handle_eq {final : C.State}
    (h : registry.Populated (.ofAnswers answer) final) {shader : Shader} {field : Field}
    (hShader : shader ∈ registry.toList) (hField : field ∈ shader.expand.fields) :
    final.handles (shader.expand.placeOf field) = shader.expand.handle answer field := by
  obtain ⟨blocks, hEvents, hBlocks⟩ := h.blocks
  obtain ⟨block, hBlock, hLoaded⟩ := exists_mem_of_forall₂ hBlocks hShader
  refine hLoaded.handle_eq (fun event hEvent => h.history.answered event ?_) hField
  rw [hEvents]
  exact List.mem_flatten.mpr ⟨block, hBlock, hEvent⟩

/-- What the shaders and the answers of a library without memory determine of a round from the
container of zeros. -/
structure Determined (registry : Registry) (answer : C.Request → UInt32) (round : C.Round) :
    Prop where
  fields : ∀ shader ∈ registry.toList, ∀ field ∈ shader.expand.fields,
    round.loaded.handles (shader.expand.placeOf field) = shader.expand.handle answer field
  elsewhere : ∀ place ∉ registry.places, round.loaded.handles place = 0
  unload : round.unload.map C.Event.request =
    registry.toList.map fun shader => releaseRequest (shader.expand.handle answer .program)

/-- The calls of the unload routine, if the load is answered without memory. -/
theorem Pairs.unload_eq {round : C.Round} (h : registry.Pairs round)
    (hAnswered : ∀ event ∈ round.load, event.answer = answer event.request) :
    round.unload.map C.Event.request =
      registry.toList.map fun shader => releaseRequest (shader.expand.handle answer .program) := by
  have hCompiled : ∀ event ∈ C.calls "gl_program_vert_frag" round.load,
      event.answer = answer event.request :=
    fun event hEvent => hAnswered event (List.mem_filter.mp hEvent).1
  calc round.unload.map C.Event.request
    _ = (C.calls "gl_program_vert_frag" round.load).map fun event => releaseRequest event.answer :=
      h.releases
    _ = ((C.calls "gl_program_vert_frag" round.load).map C.Event.request).map
          fun request => releaseRequest (answer request) := by
      rw [List.map_map]
      exact List.map_congr_left fun event hEvent =>
        congrArg releaseRequest (hCompiled event hEvent)
    _ = registry.toList.map fun shader =>
          releaseRequest (shader.expand.handle answer .program) := by
      rw [h.compiles, List.map_map]
      exact List.map_congr_left fun shader _ =>
        congrArg releaseRequest (shader.expand.handle_program answer).symm

/-- A round is determined by the shaders and the answers. -/
theorem WellFormed.runRound_determined (h : registry.WellFormed) (answer : C.Request → UInt32) :
    ∃ round, registry.source.runRound (.ofAnswers answer) .zero = some round ∧
      registry.Determined answer round := by
  have hZero : ∀ place, C.State.zero.handles place = 0 := fun _ => rfl
  obtain ⟨round, hRound, hPairs, -⟩ := h.runRound (.ofAnswers answer) hZero
  obtain ⟨final, hFinal, hPopulated⟩ := h.runBody_loadTrees (.ofAnswers answer)
  obtain ⟨-, hLoad⟩ := C.Source.load_of_runRound hRound
  cases Option.some.inj (hLoad.symm.trans hFinal)
  refine ⟨round, hRound, ?_, hPopulated.elsewhere, ?_⟩
  · exact fun shader hShader field hField => hPopulated.handle_eq hShader hField
  · exact hPairs.unload_eq fun event hEvent =>
      hPopulated.history.answered event (List.mem_of_mem_drop hEvent)

end

/-! ## Two orders -/

theorem mem_places_perm {registry other : Registry}
    (hOrder : registry.toList.Perm other.toList) {place : List String} :
    place ∈ other.places ↔ place ∈ registry.places :=
  (hOrder.flatMap_right Shader.places).mem_iff.symm

/-- Two loads leave the same container, and the unloads after them make the same calls in some
order. So they release the same handles, as often. -/
structure SameHandles (round other : C.Round) : Prop where
  loaded : ∀ place, other.loaded.handles place = round.loaded.handles place
  calls : (other.unload.map C.Event.request).Perm (round.unload.map C.Event.request)
  released : other.released.Perm round.released

/-- Rounds that are determined by the same shaders. -/
theorem Determined.sameHandles {registry other : Registry} {answer : C.Request → UInt32}
    {round round' : C.Round} (hOrder : registry.toList.Perm other.toList)
    (h : registry.Determined answer round) (h' : other.Determined answer round') :
    SameHandles round round' := by
  have hCalls : (round'.unload.map C.Event.request).Perm (round.unload.map C.Event.request) := by
    rw [h.unload, h'.unload]
    exact (hOrder.map _).symm
  refine ⟨fun place => ?_, hCalls, ?_⟩
  · by_cases hPlace : place ∈ registry.places
    · obtain ⟨shader, hShader, hMem⟩ := List.mem_flatMap.mp hPlace
      rw [shader.places_eq] at hMem
      obtain ⟨field, hField, rfl⟩ := List.mem_map.mp hMem
      rw [h.fields shader hShader field hField,
        h'.fields shader (hOrder.mem_iff.mp hShader) field hField]
    · rw [h.elsewhere place hPlace, h'.elsewhere place fun hMem =>
        hPlace ((mem_places_perm hOrder).mp hMem)]
  · rw [C.Round.released_eq, C.Round.released_eq]
    exact hCalls.filterMap _

/-- The source file that the generator gives for a registry with the default settings. -/
structure Generates (registry : Registry) (source : C.Source) : Prop where
  read : ∃ artifacts, (({} : Settings).generate registry).result = .ok artifacts ∧
    C.readSource artifacts.implementation = some source
  load : source.load.name = "shaders_load"
  unload : source.unload.name = "shaders_unload"

theorem WellFormed.generates {registry : Registry} (h : registry.WellFormed) :
    registry.Generates registry.source where
  read := ⟨_, Settings.generate_default registry, h.readSource_eq⟩
  load := rfl
  unload := rfl

/-- An accepted registry may be put into any order: every look-up finds the same shader, and with a
graphics library without memory the load routine leaves the same container and the unload routine
releases the same handles. -/
theorem reordered_resolves {registry other : Registry} (hAccepted : registry.Accepted)
    (hOrder : registry.toList.Perm other.toList) :
    (∀ name, other.get? name = registry.get? name) ∧
      (∀ shader ∈ registry.toList, registry.get? shader.name = some shader) ∧
        ∃ source source', registry.Generates source ∧ other.Generates source' ∧
          ∀ answer : C.Request → UInt32, ∃ round round',
            source.runRound (.ofAnswers answer) .zero = some round ∧
              source'.runRound (.ofAnswers answer) .zero = some round' ∧
                SameHandles round round' := by
  have hWell := accepted_iff_wellFormed.mp hAccepted
  have hOther := hWell.perm hOrder
  refine ⟨hWell.get?_perm hOrder, fun shader => get?_name_of_nodup hWell.names_nodup,
    registry.source, other.source, hWell.generates, hOther.generates, fun answer => ?_⟩
  obtain ⟨round, hRound, hDetermined⟩ := hWell.runRound_determined answer
  obtain ⟨round', hRound', hDetermined'⟩ := hOther.runRound_determined answer
  exact ⟨round, round', hRound, hRound', hDetermined.sameHandles hOrder hDetermined'⟩

theorem reordered_resolves_reversed :
    sample.Accepted ∧ sample.toList.Perm (ofList sample.toList.reverse).toList ∧
      (∀ name, (ofList sample.toList.reverse).get? name = sample.get? name) ∧
        (∀ shader ∈ sample.toList, sample.get? shader.name = some shader) ∧
          ∃ source source', sample.Generates source ∧
            (ofList sample.toList.reverse).Generates source' ∧
              ∀ answer : C.Request → UInt32, ∃ round round',
                source.runRound (.ofAnswers answer) .zero = some round ∧
                  source'.runRound (.ofAnswers answer) .zero = some round' ∧
                    SameHandles round round' :=
  ⟨sample_accepted, (List.reverse_perm _).symm,
    reordered_resolves sample_accepted (List.reverse_perm _).symm⟩

end Registry

end ShaderHandles
