import ShaderHandles.Proofs.Shader.Fragments

/-!
# What generation logs

Generation may be told to check the registry first. If the check finds an issue, generation fails with
the issues, and a warning for each of them is all that is logged. In every other case both texts are
generated, and the log tells of the declarations, then of the load statements, then of the pair. The
texts and what is logged about them do not depend on whether a check came first.

* `Registry.warnings`, `Registry.generationLog`: the entries of a failed and of a successful generation.
* `Shader.length_loadLines`: the number that is logged with the load statements of a shader.
* `Settings.generate_gated`: generation is gated by the check and leaves exactly these entries.
-/

namespace ShaderHandles

/-! ## The check -/

namespace Registry

/-- A warning for each issue, in order. -/
def warnings (registry : Registry) : List Entry :=
  registry.issues.map fun issue =>
    { level := .warn, origin := "shader_bindgen::registry",
      message := "Shader registry: " ++ issue.message }

variable {registry : Registry}

theorem validate_runs_of_issues (hIssues : registry.issues ≠ []) :
    registry.validate.Runs registry.warnings (.error (.rejected registry.issues)) := by
  have hFound : registry.issues.isEmpty = false := List.isEmpty_eq_false_iff.mpr hIssues
  unfold validate
  rw [hFound, ← List.append_nil registry.warnings]
  exact .bind (.sendAll _) (.failed _)

theorem validate_runs_of_no_issues (hIssues : registry.issues = []) :
    registry.validate.Runs [] (.ok ()) := by
  unfold validate
  rw [hIssues]
  exact .done ()

end Registry

/-! ## The lines of a shader -/

/-- The number of handles of some groups: a selector and the variants of each. -/
def SubroutineGroup.handleCount (groups : List SubroutineGroup) : Nat :=
  groups.foldr (fun group rest => 1 + group.variants.length + rest) 0

theorem GeneralShader.length_subroutineFields (shader : GeneralShader) :
    shader.subroutineFields.length = SubroutineGroup.handleCount shader.groups := by
  unfold subroutineFields
  induction shader.groups with
  | nil => rfl
  | cons group rest ih =>
    rw [List.flatMap_cons, List.length_append, SubroutineGroup.length_fields, ih]
    rfl

namespace Shader

/-- The number of lines that a shader has in the load routine: a statement for the program and for each
attribute and uniform, and if there are groups the statements of their handles between two lines. -/
def lineCount (shader : Shader) : Nat :=
  1 + shader.expand.attributes.length + shader.expand.uniforms.length +
    if shader.expand.groups = [] then 0 else 2 + SubroutineGroup.handleCount shader.expand.groups

theorem length_loadLines (settings : Settings) (shader : Shader) :
    (shader.loadLines settings).length = shader.lineCount := by
  by_cases hGroups : shader.expand.groups = []
  · rw [loadLines_of_no_groups hGroups, length_plainStatements, lineCount, if_pos hGroups, guardPlace]
    rfl
  · have hStatements :
        (shader.groupStatements settings).length =
          SubroutineGroup.handleCount shader.expand.groups := by
      rw [groupStatements, List.length_map, GeneralShader.length_subroutineFields]
    rw [loadLines_of_groups hGroups, lineCount, if_neg hGroups]
    simp only [List.length_append, List.length_cons, List.length_nil, length_plainStatements,
      guardPlace, hStatements]
    omega

end Shader

/-! ## Generation -/

/-- The entries of a generation that succeeds: the declarations, the load statements, the pair. -/
def Registry.generationLog (registry : Registry) (artifacts : Artifacts) : List Entry :=
  (registry.toList.map fun shader =>
    { level := .debug, origin := Settings.generateOrigin,
      message := "Declaring shader '" ++ shader.name ++ "'" }) ++
  (registry.toList.map fun shader =>
    { level := .debug, origin := Settings.generateOrigin,
      message := "Binding shader '" ++ shader.name ++ "' (" ++ toString shader.lineCount ++
        " statements)" }) ++
  [{ level := .info, origin := Settings.generateOrigin,
     message := "Generated shader bindings for " ++ toString registry.toList.length ++ " shaders (" ++
        toString artifacts.interface.toUTF8.size ++ " + " ++
        toString artifacts.implementation.toUTF8.size ++ " bytes, fingerprint " ++
        artifacts.fingerprint ++ ")" }]

namespace Settings

theorem bindingEntry_eq (settings : Settings) (shader : Shader) :
    settings.bindingEntry shader =
      { level := .debug, origin := generateOrigin,
        message := "Binding shader '" ++ shader.name ++ "' (" ++ toString shader.lineCount ++
          " statements)" } := by
  rw [bindingEntry, Shader.length_loadLines]

theorem generationLog_eq (settings : Settings) (registry : Registry) (artifacts : Artifacts) :
    registry.generationLog artifacts =
      registry.toList.map declaringEntry ++ (registry.toList.map settings.bindingEntry ++
        [generatedEntry registry artifacts]) := by
  rw [funext settings.bindingEntry_eq, ← List.append_assoc]
  rfl

variable {settings : Settings} {registry : Registry}

theorem generate_runs_of_issues (hValidate : settings.validate = true)
    (hIssues : registry.issues ≠ []) :
    (settings.generate registry).Runs registry.warnings (.error (.rejected registry.issues)) := by
  rw [generate_eq, if_pos hValidate]
  exact .bind_error (Registry.validate_runs_of_issues hIssues)

theorem generate_runs_of_no_issues (hValid : settings.validate = true → registry.issues = []) :
    (settings.generate registry).Runs (registry.generationLog (settings.artifacts registry))
      (.ok (settings.artifacts registry)) := by
  have hTexts := settings.generateUnchecked_runs registry
  rw [← settings.generationLog_eq] at hTexts
  rw [generate_eq]
  split
  case isTrue hValidate =>
    rw [← List.nil_append (registry.generationLog _)]
    exact .bind (Registry.validate_runs_of_no_issues (hValid hValidate)) hTexts
  case isFalse => exact hTexts

/-- Generation gives these texts unless its check finds an issue, and logs what it does. -/
structure Gated (settings : Settings) (registry : Registry) (artifacts : Artifacts) : Prop where
  interface : (settings.interface registry).result = .ok artifacts.interface
  implementation : (settings.implementation registry).result = .ok artifacts.implementation
  fails_iff : (∃ failure, (settings.generate registry).result = .error failure) ↔
    settings.validate = true ∧ registry.issues ≠ []
  /-- A generation that fails leaves the warnings and nothing else. -/
  rejected : settings.validate = true ∧ registry.issues ≠ [] →
    (settings.generate registry).Runs registry.warnings (.error (.rejected registry.issues))
  accepted : ¬(settings.validate = true ∧ registry.issues ≠ []) →
    (settings.generate registry).Runs (registry.generationLog artifacts) (.ok artifacts)

theorem gated (settings : Settings) (registry : Registry) :
    settings.Gated registry (settings.artifacts registry) := by
  have hRejected (h : settings.validate = true ∧ registry.issues ≠ []) :=
    generate_runs_of_issues h.1 h.2
  have hAccepted (h : ¬(settings.validate = true ∧ registry.issues ≠ [])) :=
    generate_runs_of_no_issues fun hValidate => Classical.not_not.mp fun hIssues => h ⟨hValidate, hIssues⟩
  refine ⟨?interface, ?implementation, ⟨?fails, fun h => ⟨_, (hRejected h).result⟩⟩, hRejected,
    hAccepted⟩
  case interface => rw [interface_result, artifacts_interface]
  case implementation => rw [implementation_result, artifacts_implementation]
  case fails =>
    rintro ⟨failure, hFailure⟩
    refine Classical.not_not.mp fun h => ?_
    rw [(hAccepted h).result] at hFailure
    exact nomatch hFailure

/-- Whether a check is asked for does not change the texts. Generation fails exactly if the check is
asked for and finds an issue, with the issues and a warning for each. In every other case it gives the
texts and logs the declarations, the load statements and the pair. -/
theorem generate_gated (settings : Settings) (registry : Registry) :
    ∃ artifacts, ∀ asked, { settings with validate := asked }.Gated registry artifacts :=
  ⟨settings.artifacts registry, fun asked => { settings with validate := asked }.gated registry⟩

/-- The empty registry is rejected if a check is asked for. -/
example : (({ validate := true } : Settings).generate .empty).run.entries =
    [{ level := .warn, origin := "shader_bindgen::registry",
       message := "Shader registry: registry is empty" }] := rfl

end Settings

end ShaderHandles
