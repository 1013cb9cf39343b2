import ShaderHandles.Proofs.Artifacts.Container

/-!
# Simple shaders and their descriptions

A simple shader is the same program as the general shader that its description gives. The two differ
in the header only: there a simple shader is one member of the shared struct type, and its description
is a struct of its own. Nothing is asked of the registry or of the settings.

* `Shader.loadLines_described`, `Shader.fieldPaths_described`: what depends on `Shader.expand` alone
  is kept, because a description stands for the same general shader.
* `Registry.map_expand`: so are lists of what is read from the shaders of a registry.
* `Registry.issuesAfter_described`: the check finds the same issues, whatever names it has seen.
* `Settings.implementation_expand`: the source file is written from the same values.
* `Shader.SpelledOut`: what the expansion has in place of a shader, which is never a simple one.
* `Registry.expand_sameProgram`: a registry and its expansion.
-/

namespace ShaderHandles

/-! ## One shader -/

namespace Shader

theorem fieldPaths_described (shader : Shader) : shader.described.fieldPaths = shader.fieldPaths := by
  rw [fieldPaths, expand_described, fieldPaths]

theorem loadLines_described (settings : Settings) (shader : Shader) :
    shader.described.loadLines settings = shader.loadLines settings := by
  rw [loadLines, expand_described, loadLines]

theorem releaseLine_described (settings : Settings) (shader : Shader) :
    shader.described.releaseLine settings = shader.releaseLine settings := by
  rw [releaseLine, described_name, releaseLine]

/-- A general shader stays as it is, and a simple one becomes the general shader that its description
gives. -/
inductive SpelledOut : Shader → Shader → Prop where
  | general (shader : GeneralShader) : SpelledOut (.general shader) (.general shader)
  | simple (shader : SimpleShader) : SpelledOut (.simple shader) (.general shader.describe)

theorem spelledOut_described : (shader : Shader) → SpelledOut shader shader.described
  | .general shader => .general shader
  | .simple shader => .simple shader

/-- The paths of the fields that the shared struct type brings to a simple shader. -/
theorem fieldPaths_simple (shader : SimpleShader) :
    (simple shader).fieldPaths = SimpleShader.sharedMembers := rfl

end Shader

/-! ## The check -/

namespace Registry

/-- The names that have been seen before are the same as well, since a description keeps the name. -/
theorem issuesAfter_described (seen : List String) (shaders : List Shader) :
    issuesAfter seen (shaders.map Shader.described) = issuesAfter seen shaders := by
  induction shaders generalizing seen with
  | nil => rfl
  | cons shader rest ih =>
    rw [List.map_cons, issuesAfter, issuesAfter, Shader.described_name, Shader.expand_described, ih]

/-- What a description keeps of every shader is kept of the whole list. -/
theorem map_expand {α : Type} (registry : Registry) (value : Shader → α)
    (hValue : ∀ shader, value shader.described = value shader) :
    registry.expand.toList.map value = registry.toList.map value := by
  rw [toList_expand, List.map_map]
  exact List.map_congr_left fun shader _ => hValue shader

theorem isEmpty_expand (registry : Registry) : registry.expand.isEmpty = registry.isEmpty :=
  List.isEmpty_map

theorem issues_expand (registry : Registry) : registry.expand.issues = registry.issues := by
  rw [issues, isEmpty_expand, toList_expand, issuesAfter_described, issues]

end Registry

/-! ## The source file -/

namespace Settings

theorem bindingEntry_described (settings : Settings) (shader : Shader) :
    settings.bindingEntry shader.described = settings.bindingEntry shader := by
  rw [bindingEntry, Shader.described_name, Shader.loadLines_described, bindingEntry]

theorem implementationScope_expand (settings : Settings) (registry : Registry) :
    settings.implementationScope registry.expand = settings.implementationScope registry := by
  have hBindings := registry.map_expand
    (fun shader => Template.Value.texts (shader.loadLines settings))
    fun shader => congrArg Template.Value.texts (shader.loadLines_described settings)
  have hReleases := registry.map_expand _ (Shader.releaseLine_described settings)
  rw [implementationScope, hBindings, hReleases, implementationScope]

/-- The source file is written in the same way, down to the entries of the log. -/
theorem implementation_expand (settings : Settings) (registry : Registry) :
    settings.implementation registry.expand = settings.implementation registry := by
  have hEntries := registry.map_expand _ settings.bindingEntry_described
  rw [implementation, hEntries, implementationScope_expand, implementation]

end Settings

/-! ## The registry -/

/-- Two shaders have the same fields and are released by the same statement. -/
structure Shader.SameFields (settings : Settings) (shader other : Shader) : Prop where
  fieldPaths : other.fieldPaths = shader.fieldPaths
  releaseLine : other.releaseLine settings = shader.releaseLine settings

/-- The header of a registry declares, for each shader in turn, the handle fields `members`. -/
structure Settings.Declares (settings : Settings) (registry : Registry)
    (members : List (String × List String)) : Prop where
  emitted : (settings.interface registry).result =
    .ok (Template.lines (settings.interfaceLines registry))
  container : settings.containerFields? (settings.interfaceLines registry) = some members

/-- A registry and its expansion are the same program. -/
structure Registry.SameProgram (settings : Settings) (registry other : Registry) : Prop where
  /-- There are general shaders only, each of them in place of the shader that it spells out. -/
  spelledOut : List.Forall₂ Shader.SpelledOut registry.toList other.toList
  /-- The source files are the same text. -/
  implementation : ∃ text, (settings.implementation registry).result = .ok text ∧
    (settings.implementation other).result = .ok text
  /-- The check finds the same issues in the same order. -/
  issues : other.issues = registry.issues
  /-- The shaders correspond one to one. -/
  shaders : List.Forall₂ (Shader.SameFields settings) registry.toList other.toList
  /-- The shared struct type declares what the struct of a description declares. -/
  shared : ∃ fields, settings.sharedFields? (settings.interfaceLines registry) = some fields ∧
    ∀ shader : SimpleShader,
      settings.declaredFields? fields ((Shader.general shader.describe).declaration settings) =
        some [(shader.name, fields)]
  /-- The headers declare the same handle fields in the same order. -/
  members : ∃ members, settings.Declares registry members ∧ settings.Declares other members

theorem Settings.declares (settings : Settings) (registry : Registry) :
    settings.Declares registry
      (registry.toList.map fun shader => (shader.name, shader.fieldPaths)) where
  emitted := settings.interface_result registry
  container := settings.containerFields?_interfaceLines registry

namespace Registry

theorem members_expand (registry : Registry) :
    (registry.expand.toList.map fun shader => (shader.name, shader.fieldPaths)) =
      registry.toList.map fun shader => (shader.name, shader.fieldPaths) :=
  registry.map_expand _ fun shader => Prod.ext shader.described_name shader.fieldPaths_described

/-- What holds between every shader and its description holds along the two lists. -/
theorem forall₂_expand {related : Shader → Shader → Prop} (registry : Registry)
    (hRelated : ∀ shader, related shader shader.described) :
    List.Forall₂ related registry.toList registry.expand.toList := by
  rw [toList_expand, List.forall₂_map_right_iff, List.forall₂_same]
  exact fun shader _ => hRelated shader

/-- Simple shaders may be spelled out in every registry, valid or not, and for all settings. -/
theorem expand_sameProgram (settings : Settings) (registry : Registry) :
    registry.SameProgram settings registry.expand where
  spelledOut := registry.forall₂_expand Shader.spelledOut_described
  implementation := by
    refine ⟨_, settings.implementation_result registry, ?_⟩
    rw [settings.implementation_expand]
    exact settings.implementation_result registry
  issues := registry.issues_expand
  shaders := registry.forall₂_expand fun shader =>
    ⟨shader.fieldPaths_described, shader.releaseLine_described settings⟩
  shared := by
    refine ⟨_, settings.sharedFields?_interfaceLines registry, fun shader => ?_⟩
    rw [← Shader.fieldPaths_simple shader, ← Shader.fieldPaths_described]
    exact settings.declaredFields?_general _ shader.describe
  members := by
    refine ⟨_, settings.declares registry, ?_⟩
    rw [← members_expand]
    exact settings.declares registry.expand

end Registry

end ShaderHandles
