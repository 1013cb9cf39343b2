import ShaderHandles.Proofs.Artifacts.LoadRoutine

/-!
# Load and unload pair up

A program that uses the generated code loads the shaders and unloads them again, any number of
times. The unload routine finds every program where the load routine left it, because no later
assignment hits a program's handle, and it zeroes the container, so the next load starts as the
first one did.

* `C.Round`, `C.Source.runRounds`: a load and the unload after it, and a run of several of them.
* `Registry.Pairs`: what one round does.
* `Registry.WellFormed.runRound`: a round from a container of zeros does so and leaves zeros.
* `Registry.rounds_release`: over a whole run every compiled program is released once.
-/

namespace ShaderHandles

/-! ## Rounds -/

namespace C

/-- The events that are calls of one function. -/
def calls (function : String) (events : List Event) : List Event :=
  events.filter fun event => event.request.function = function

@[simp] theorem calls_append (function : String) (first second : List Event) :
    calls function (first ++ second) = calls function first ++ calls function second :=
  List.filter_append first second

theorem calls_eq_nil {function : String} {events : List Event}
    (hEvents : ∀ event ∈ events, event.request.function ≠ function) :
    calls function events = [] := by
  rw [calls, List.filter_eq_nil_iff]
  exact fun event hEvent => by simpa using hEvents event hEvent

theorem calls_eq_self {function : String} {events : List Event}
    (hEvents : ∀ event ∈ events, event.request.function = function) :
    calls function events = events := by
  rw [calls, List.filter_eq_self]
  exact fun event hEvent => by simpa using hEvents event hEvent

/-- The states around a load and the unload after it. -/
structure Round where
  before : State
  loaded : State
  unloaded : State

namespace Round

/-- The events of the load routine. -/
def load (round : Round) : List Event := round.loaded.events.drop round.before.events.length

/-- The events of the unload routine. -/
def unload (round : Round) : List Event := round.unloaded.events.drop round.loaded.events.length

def events (round : Round) : List Event := round.load ++ round.unload

end Round

namespace Source

/-- The load routine, then the unload routine. -/
def runRound (source : Source) (graphics : Graphics) (before : State) : Option Round := do
  let loaded ← runBody graphics source.object.name source.load.body before
  let unloaded ← runBody graphics source.object.name source.unload.body loaded
  return { before, loaded, unloaded }

/-- Some number of rounds, each after the other, and the state after them. -/
def runRounds (source : Source) (graphics : Graphics) : (count : Nat) → State →
    Option (List Round × State)
  | 0, state => some ([], state)
  | count + 1, state => do
    let round ← source.runRound graphics state
    let (rounds, final) ← source.runRounds graphics count round.unloaded
    return (round :: rounds, final)

/-- What happens in a round are answers of the library. -/
theorem round_history {source : Source} {graphics : Graphics} {before : State} {round : Round}
    (hBefore : History graphics before.events)
    (hRun : source.runRound graphics before = some round) :
    History graphics round.unloaded.events := by
  obtain ⟨loaded, hLoad, hRest⟩ := Option.bind_eq_some_iff.mp hRun
  obtain ⟨unloaded, hUnload, hRound⟩ := Option.bind_eq_some_iff.mp hRest
  cases hRound
  exact body_history (body_history hBefore hLoad) hUnload

end Source

end C

/-! ## The calls of a load -/

namespace GeneralShader

/-- The call that compiles a shader's program. -/
def compileRequest (shader : GeneralShader) : C.Request :=
  ⟨"gl_program_vert_frag", [.text shader.vertexPath, .text shader.fragmentPath]⟩

/-- The call that releases a program. -/
def releaseRequest (program : UInt32) : C.Request := ⟨"glDeleteProgram", [.handle program]⟩

section

variable {shader : GeneralShader} {handles : Handles} {fields : List Field} {events : List C.Event}

theorem function_request_ne_delete (shader : GeneralShader) (handles : Handles) (field : Field) :
    (shader.request handles field).function ≠ "glDeleteProgram" := by
  cases field <;> simp [request]

theorem function_request_ne_compile {field : Field} (hField : field ≠ .program) :
    (shader.request handles field).function ≠ "gl_program_vert_frag" := by
  cases field <;> simp [request] at hField ⊢

theorem Resolves.function_ne {function : String} (h : shader.Resolves handles fields events)
    (hFields : ∀ field ∈ fields, (shader.request handles field).function ≠ function) :
    ∀ event ∈ events, event.request.function ≠ function := by
  induction h with
  | nil => exact fun event hEvent => absurd hEvent List.not_mem_nil
  | cons hFirst _ ih =>
    intro event hEvent
    rcases List.mem_cons.mp hEvent with rfl | hEvent
    · rw [hFirst.request]
      exact hFields _ List.mem_cons_self
    · exact ih (fun field hField => hFields field (List.mem_cons_of_mem _ hField)) event hEvent

/-- The guarded part of a block asks for the capability and for fields of subroutine groups. -/
theorem Guarded.function_ne {function : String} (h : shader.Guarded handles events)
    (hCapability : function ≠ "gl_has")
    (hFields : ∀ field ∈ shader.subroutineFields,
      (shader.request handles field).function ≠ function) :
    ∀ event ∈ events, event.request.function ≠ function := by
  cases h with
  | plain => exact fun event hEvent => absurd hEvent List.not_mem_nil
  | granted _ _ hEvents =>
    exact List.forall_mem_cons.mpr ⟨hCapability.symm, hEvents.function_ne hFields⟩
  | refused => exact List.forall_mem_singleton.mpr hCapability.symm

theorem ne_program_of_mem_subroutineFields {field : Field}
    (hField : field ∈ shader.subroutineFields) : field ≠ .program := by
  rintro rfl
  simp [subroutineFields, SubroutineGroup.fields] at hField

/-- A block compiles its shader once, and the program's field holds the answer. -/
theorem Loaded.compiles (h : shader.Loaded handles events) :
    C.calls "gl_program_vert_frag" events =
      [⟨shader.compileRequest, handles (shader.placeOf .program)⟩] := by
  obtain ⟨hPlain, hGuarded⟩ := h
  have hNone := C.calls_eq_nil (hGuarded.function_ne (by decide) fun field hField =>
    function_request_ne_compile (ne_program_of_mem_subroutineFields hField))
  obtain ⟨lookups, hFields⟩ : ∃ lookups, shader.plainFields = .program :: lookups := ⟨_, rfl⟩
  have hLookups : ∀ field ∈ lookups, field ≠ .program := by
    intro field hField
    have hMem : field ∈ shader.attributes.map .vertexAttribute ++ shader.uniforms.map .uniform := by
      rwa [← List.tail_eq_of_cons_eq hFields] at hField
    rintro rfl
    simp at hMem
  rw [hFields] at hPlain
  cases hPlain with
  | @cons _ event _ rest hProgram hRest =>
    have hOthers := C.calls_eq_nil (Resolves.function_ne hRest fun field hField =>
      function_request_ne_compile (hLookups field hField))
    have hEvent : event = ⟨shader.compileRequest, handles (shader.placeOf .program)⟩ := by
      obtain ⟨request, answer⟩ := event
      rw [hProgram.answer, show request = shader.compileRequest from hProgram.request]
    rw [C.calls_append, hNone, List.append_nil, hEvent]
    exact congrArg _ hOthers

theorem Loaded.releases_nothing (h : shader.Loaded handles events) :
    C.calls "glDeleteProgram" events = [] := by
  obtain ⟨hPlain, hGuarded⟩ := h
  have hFields (field : Field) := function_request_ne_delete shader handles field
  rw [C.calls_append, C.calls_eq_nil (hPlain.function_ne fun field _ => hFields field),
    C.calls_eq_nil (hGuarded.function_ne (by decide) fun field _ => hFields field), List.append_nil]

end

end GeneralShader

/-! ## The calls of a routine -/

namespace Registry

open GeneralShader (releaseRequest)

section

variable {handles : Handles} {shaders : List Shader} {blocks : List (List C.Event)}

/-- The load routine compiles every shader once, in order. -/
theorem compiles_of_loaded
    (h : List.Forall₂ (fun shader block => shader.expand.Loaded handles block) shaders blocks) :
    C.calls "gl_program_vert_frag" blocks.flatten = shaders.map fun shader =>
      ⟨shader.expand.compileRequest, handles (shader.expand.placeOf .program)⟩ := by
  induction h with
  | nil => rfl
  | cons hFirst _ ih =>
    rw [List.flatten_cons, C.calls_append, hFirst.compiles, ih, List.map_cons,
      List.singleton_append]

theorem releases_nothing_of_loaded
    (h : List.Forall₂ (fun shader block => shader.expand.Loaded handles block) shaders blocks) :
    C.calls "glDeleteProgram" blocks.flatten = [] := by
  induction h with
  | nil => rfl
  | cons hFirst _ ih =>
    rw [List.flatten_cons, C.calls_append, hFirst.releases_nothing, ih, List.append_nil]

end

/-- A statement of the unload routine releases the program that the container holds. -/
theorem run_releaseTree (shader : GeneralShader) (graphics : C.Graphics) (state : C.State) :
    shader.releaseTree.run graphics "shaders" state =
      some (state.ask graphics (releaseRequest (state.handles (shader.placeOf .program)))) := by
  rfl

/-- The unload routine releases the programs of some shaders and then resets the container. -/
theorem runBody_releaseTrees (graphics : C.Graphics) (shaders : List Shader) (state : C.State) :
    ∃ happened, C.runBody graphics "shaders"
        ((shaders.map fun shader => shader.expand.releaseTree) ++ [resetTree]) state =
          some ⟨fun _ => 0, state.events ++ happened⟩ ∧
      happened.map C.Event.request = shaders.map fun shader =>
        releaseRequest (state.handles (shader.expand.placeOf .program)) := by
  induction shaders generalizing state with
  | nil =>
    refine ⟨[], ?_, rfl⟩
    rw [List.append_nil]
    rfl
  | cons shader rest ih =>
    let request := releaseRequest (state.handles (shader.expand.placeOf .program))
    obtain ⟨happened, hRun, hRequests⟩ := ih (state.ask graphics request)
    refine ⟨⟨request, graphics state.events request⟩ :: happened, ?_, ?_⟩
    · rw [List.map_cons, List.cons_append, C.runBody, run_releaseTree, Option.bind_some, hRun,
        C.State.ask, List.append_assoc, List.singleton_append]
    · rw [List.map_cons, List.map_cons, hRequests]
      rfl

/-! ## One round -/

/-- What one round does: the load compiles every shader of the registry once, in order, from its own
source paths, and releases nothing; the unload calls nothing but the release of what these calls
returned, in the same order, and leaves a container of zeros. -/
structure Pairs (registry : Registry) (round : C.Round) : Prop where
  compiles : (C.calls "gl_program_vert_frag" round.load).map C.Event.request =
    registry.toList.map fun shader => shader.expand.compileRequest
  keeps : C.calls "glDeleteProgram" round.load = []
  releases : round.unload.map C.Event.request =
    (C.calls "gl_program_vert_frag" round.load).map fun event => releaseRequest event.answer
  cleared : ∀ place, round.unloaded.handles place = 0

/-- A round from a container of zeros. -/
theorem WellFormed.runRound {registry : Registry} (h : registry.WellFormed) (graphics : C.Graphics)
    {before : C.State} (hZero : ∀ place, before.handles place = 0) :
    ∃ round, registry.source.runRound graphics before = some round ∧ registry.Pairs round ∧
      round.unloaded.events = before.events ++ round.events := by
  obtain ⟨blocks, loaded, hLoad, hLoadEvents, hLoaded, -⟩ :=
    @runBody_blocks graphics _ h.shader h.places_nodup before fun place _ => hZero place
  obtain ⟨happened, hUnload, hReleases⟩ := runBody_releaseTrees graphics registry.toList loaded
  let round : C.Round := ⟨before, loaded, ⟨fun _ => 0, loaded.events ++ happened⟩⟩
  have hRound : registry.source.runRound graphics before = some round := by
    have hLoadBody : C.runBody graphics registry.source.object.name registry.source.load.body
        before = some loaded := hLoad
    have hUnloadBody : C.runBody graphics registry.source.object.name registry.source.unload.body
        loaded = some ⟨fun _ => 0, loaded.events ++ happened⟩ := hUnload
    simp only [C.Source.runRound, hLoadBody, hUnloadBody, Option.bind_eq_bind, Option.bind_some,
      Option.pure_def, round]
  have hLoadPart : round.load = blocks.flatten := by
    change loaded.events.drop before.events.length = blocks.flatten
    rw [hLoadEvents, List.drop_left]
  have hUnloadPart : round.unload = happened := List.drop_left
  have hCompiles := compiles_of_loaded hLoaded
  refine ⟨round, hRound, ⟨?_, ?_, ?_, fun _ => rfl⟩, ?_⟩
  · rw [hLoadPart, hCompiles, List.map_map]
    rfl
  · rw [hLoadPart, releases_nothing_of_loaded hLoaded]
  · rw [hLoadPart, hUnloadPart, hReleases, hCompiles, List.map_map]
    rfl
  · change loaded.events ++ happened = before.events ++ (round.load ++ round.unload)
    rw [hLoadEvents, hLoadPart, hUnloadPart, List.append_assoc]

/-! ## Whole runs -/

/-- What a run of several rounds from a container of zeros does. -/
structure Released (registry : Registry) (graphics : C.Graphics) (rounds : List C.Round)
    (final : C.State) : Prop where
  history : C.History graphics final.events
  events : final.events = rounds.flatMap C.Round.events
  pairs : ∀ round ∈ rounds, registry.Pairs round
  cleared : ∀ place, final.handles place = 0
  /-- The programs that are released are those that were compiled, as often and in this order. -/
  once : (C.calls "glDeleteProgram" final.events).map C.Event.request =
    (C.calls "gl_program_vert_frag" final.events).map fun event => releaseRequest event.answer

/-- The releases of a round are those of what it compiled. -/
theorem Pairs.once {registry : Registry} {round : C.Round} (h : registry.Pairs round) :
    (C.calls "glDeleteProgram" round.events).map C.Event.request =
      (C.calls "gl_program_vert_frag" round.events).map fun event =>
        releaseRequest event.answer := by
  have hFunction : ∀ event ∈ round.unload, event.request.function = "glDeleteProgram" := by
    intro event hEvent
    have hRequest : event.request ∈ round.unload.map C.Event.request := List.mem_map_of_mem hEvent
    rw [h.releases] at hRequest
    obtain ⟨compiled, -, hEq⟩ := List.mem_map.mp hRequest
    rw [← hEq]
    rfl
  have hCompiles : C.calls "gl_program_vert_frag" round.unload = [] :=
    C.calls_eq_nil fun event hEvent => by
      rw [hFunction event hEvent]
      decide
  rw [C.Round.events, C.calls_append, C.calls_append, h.keeps, hCompiles, C.calls_eq_self hFunction,
    List.nil_append, List.append_nil, h.releases]

theorem once_of_pairs {registry : Registry} {rounds : List C.Round}
    (h : ∀ round ∈ rounds, registry.Pairs round) :
    (C.calls "glDeleteProgram" (rounds.flatMap C.Round.events)).map C.Event.request =
      (C.calls "gl_program_vert_frag" (rounds.flatMap C.Round.events)).map fun event =>
        releaseRequest event.answer := by
  induction rounds with
  | nil => rfl
  | cons round rest ih =>
    rw [List.flatMap_cons, C.calls_append, C.calls_append, List.map_append, List.map_append,
      (h round List.mem_cons_self).once,
      ih fun other hOther => h other (List.mem_cons_of_mem _ hOther)]

/-- A run from a container of zeros, which every round leaves as it was. -/
theorem WellFormed.runRounds {registry : Registry} (h : registry.WellFormed) (graphics : C.Graphics)
    (count : Nat) (before : C.State) (hHistory : C.History graphics before.events)
    (hZero : ∀ place, before.handles place = 0) :
    ∃ rounds final, registry.source.runRounds graphics count before = some (rounds, final) ∧
      rounds.length = count ∧ (∀ round ∈ rounds, registry.Pairs round) ∧
      (∀ place, final.handles place = 0) ∧ C.History graphics final.events ∧
      final.events = before.events ++ rounds.flatMap C.Round.events := by
  induction count generalizing before with
  | zero => exact ⟨[], before, rfl, rfl, by simp, hZero, hHistory, (List.append_nil _).symm⟩
  | succ count ih =>
    obtain ⟨round, hRound, hPairs, hEvents⟩ := h.runRound graphics hZero
    obtain ⟨rounds, final, hRun, hLength, hRest, hCleared, hFinal, hRestEvents⟩ :=
      ih round.unloaded (C.Source.round_history hHistory hRound) hPairs.cleared
    refine ⟨round :: rounds, final, ?_, congrArg (· + 1) hLength,
      List.forall_mem_cons.mpr ⟨hPairs, hRest⟩, hCleared, hFinal, ?_⟩
    · simp only [C.Source.runRounds, hRound, hRun, Option.bind_eq_bind, Option.bind_some,
        Option.pure_def]
    · rw [hRestEvents, hEvents, List.flatMap_cons, List.append_assoc]

/-- However often the routines of an accepted registry are run, one after the other from a container
of zeros, every unload releases the programs of the load before it, and over the whole run every
compiled program is released once. -/
theorem rounds_release {registry : Registry} (hAccepted : registry.Accepted) :
    ∃ artifacts source, (({} : Settings).generate registry).result = .ok artifacts ∧
      C.readSource artifacts.implementation = some source ∧
        source.load.name = "shaders_load" ∧ source.unload.name = "shaders_unload" ∧
          ∀ graphics count, ∃ rounds final,
            source.runRounds graphics count .zero = some (rounds, final) ∧ rounds.length = count ∧
              registry.Released graphics rounds final := by
  have hWell := accepted_iff_wellFormed.mp hAccepted
  refine ⟨_, registry.source, Settings.generate_default registry, hWell.readSource_eq, rfl, rfl, ?_⟩
  intro graphics count
  obtain ⟨rounds, final, hRun, hLength, hPairs, hCleared, hHistory, hEvents⟩ :=
    hWell.runRounds graphics count .zero .nil fun _ => rfl
  have hAll : final.events = rounds.flatMap C.Round.events := hEvents
  refine ⟨rounds, final, hRun, hLength, hHistory, hAll, hPairs, hCleared, ?_⟩
  rw [hAll]
  exact once_of_pairs hPairs

theorem rounds_release_sample :
    sample.Accepted ∧ ∃ artifacts source, (({} : Settings).generate sample).result = .ok artifacts ∧
      C.readSource artifacts.implementation = some source ∧
        source.load.name = "shaders_load" ∧ source.unload.name = "shaders_unload" ∧
          ∀ graphics count, ∃ rounds final,
            source.runRounds graphics count .zero = some (rounds, final) ∧ rounds.length = count ∧
              sample.Released graphics rounds final :=
  ⟨sample_accepted, rounds_release sample_accepted⟩

end Registry

end ShaderHandles
