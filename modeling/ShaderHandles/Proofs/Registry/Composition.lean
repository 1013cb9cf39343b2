import ShaderHandles.Proofs.Registry.Order
import ShaderHandles.Proofs.Registry.Repetition

/-!
# Checking registries that are put together

The check remembers the names that it has met, so a shader is not checked by itself. Still its result
changes with the registry in a simple way. Another order moves the blame for a repeated name from one
shader to another, but the issues are the same, each as often. More shaders at the end add issues
behind those that are there. Two registries can be accepted as one exactly if they can be accepted
apart and have no name in common.

* `Registry.reordered_issues`: the check of a registry in another order.
* `Registry.wellFormed_append_iff`: two registries, one after the other.
* `Registry.WellFormed.sublist`: some of the shaders of a registry.
* `Registry.Growth`, `Registry.grow`: shaders that are added one by one or list by list.
* `Registry.check_composes`: the check of registries that are put together.
-/

namespace ShaderHandles.Registry

variable {registry other : Registry}

/-! ## Another order -/

theorem issuesAfter_perm_of_perm {first second : List Shader} (hOrder : first.Perm second)
    (seen : List String) : (issuesAfter seen first).Perm (issuesAfter seen second) := by
  have hOwn : (first.flatMap fun shader => shader.expand.issues).Perm
      (second.flatMap fun shader => shader.expand.issues) := hOrder.flatMap_right _
  have hRepeated : (repetitions seen (first.map Shader.name)).Perm
      (repetitions seen (second.map Shader.name)) := repetitions_perm (hOrder.map Shader.name)
  refine (issuesAfter_perm seen first).trans ?_
  exact (hOwn.append (hRepeated.map _)).trans (issuesAfter_perm seen second).symm

theorem issues_perm_of_perm (hOrder : registry.toList.Perm other.toList) :
    registry.issues.Perm other.issues := by
  by_cases hEmpty : registry.toList = []
  · have hOther : other.toList = [] := List.Perm.eq_nil (hEmpty ▸ hOrder.symm)
    rw [issues_of_empty hEmpty, issues_of_empty hOther]
  · have hOther : other.toList ≠ [] := fun h => hEmpty (List.Perm.eq_nil (h ▸ hOrder))
    rw [issues_of_nonempty hEmpty, issues_of_nonempty hOther]
    exact issuesAfter_perm_of_perm hOrder []

theorem validate_rejected (hIssues : registry.issues ≠ []) :
    registry.validate.result = .error (.rejected registry.issues) := by
  unfold validate
  cases hList : registry.issues with
  | nil => exact absurd hList hIssues
  | cons issue rest => rfl

/-- Another order of the shaders leaves the issues as they are, each as often. So both registries are
accepted, or both are rejected with the same number of issues. -/
theorem reordered_issues (hOrder : registry.toList.Perm other.toList) :
    registry.issues.Perm other.issues ∧
      ((registry.Accepted ∧ other.Accepted) ∨
        ∃ found found', registry.validate.result = .error (.rejected found) ∧
          other.validate.result = .error (.rejected found') ∧
            found.Perm found' ∧ found.length = found'.length) := by
  have hIssues := issues_perm_of_perm hOrder
  refine ⟨hIssues, ?_⟩
  by_cases hNone : registry.issues = []
  · have hOther : other.issues = [] := List.Perm.eq_nil (hNone ▸ hIssues.symm)
    exact .inl ⟨accepted_iff_issues.mpr hNone, accepted_iff_issues.mpr hOther⟩
  · have hOther : other.issues ≠ [] := fun h => hNone (List.Perm.eq_nil (h ▸ hIssues))
    exact .inr ⟨_, _, validate_rejected hNone, validate_rejected hOther, hIssues, hIssues.length_eq⟩

/-- Three shaders, two of one name. One of these two has no fragment source. -/
def twins : Registry := ofList [
  .simple { name := "glow", fragmentPath := "" },
  .simple { name := "glow", fragmentPath := "glow.frag" },
  .simple { name := "flare-2", fragmentPath := "flare.frag" }]

theorem reordered_issues_rotated :
    twins.toList.Perm twins.rotate.toList ∧ twins.issues ≠ twins.rotate.issues ∧
      twins.issues.Perm twins.rotate.issues ∧
        ((twins.Accepted ∧ twins.rotate.Accepted) ∨
          ∃ found found', twins.validate.result = .error (.rejected found) ∧
            twins.rotate.validate.result = .error (.rejected found') ∧
              found.Perm found' ∧ found.length = found'.length) := by
  have hOrder : twins.toList.Perm twins.rotate.toList :=
    (List.perm_append_comm : ([_] ++ [_, _] : List Shader).Perm _)
  exact ⟨hOrder, by decide +kernel, reordered_issues hOrder⟩

/-! ## One after the other -/

theorem names_append (first second : Registry) :
    (first.append second.toList).names = first.names ++ second.names :=
  List.map_append

theorem append_nonempty (hNonempty : registry.toList ≠ []) (shaders : List Shader) :
    (registry.append shaders).toList ≠ [] :=
  List.append_ne_nil_of_left_ne_nil hNonempty shaders

theorem issues_prefix_append (hNonempty : registry.toList ≠ []) (shaders : List Shader) :
    registry.issues <+: (registry.append shaders).issues := by
  rw [issues_of_nonempty hNonempty, issues_of_nonempty (append_nonempty hNonempty shaders),
    toList_append, issuesAfter_append]
  exact List.prefix_append _ _

theorem wellFormed_append_iff {first second : Registry} (hFirst : first.toList ≠ [])
    (hSecond : second.toList ≠ []) :
    (first.append second.toList).WellFormed ↔
      first.WellFormed ∧ second.WellFormed ∧ ∀ name ∈ first.names, name ∉ second.names := by
  constructor
  · intro h
    have hNames := h.names_nodup
    rw [names_append, List.nodup_append] at hNames
    obtain ⟨hFirstNames, hSecondNames, hApart⟩ := hNames
    refine ⟨⟨hFirst, hFirstNames, fun shader hShader => ?_⟩,
      ⟨hSecond, hSecondNames, fun shader hShader => ?_⟩, ?_⟩
    · exact h.shader shader (List.mem_append_left _ hShader)
    · exact h.shader shader (List.mem_append_right _ hShader)
    · exact fun name hName hOther => hApart name hName name hOther rfl
  · rintro ⟨h, h', hApart⟩
    refine ⟨append_nonempty hFirst _, ?_, fun shader hShader => ?_⟩
    · rw [names_append, List.nodup_append]
      refine ⟨h.names_nodup, h'.names_nodup, fun name hName other hOther hEq => ?_⟩
      exact hApart name hName (hEq ▸ hOther)
    · rcases List.mem_append.mp hShader with hShader | hShader
      · exact h.shader shader hShader
      · exact h'.shader shader hShader

theorem WellFormed.sublist (h : registry.WellFormed) (hNonempty : other.toList ≠ [])
    (hPart : other.toList.Sublist registry.toList) : other.WellFormed where
  nonempty := hNonempty
  names_nodup := (hPart.map Shader.name).nodup h.names_nodup
  shader shader hShader := h.shader shader (hPart.mem hShader)

/-! ## Growth -/

/-- A step that adds shaders at the end. -/
inductive Growth where
  | push (shader : Shader)
  | append (shaders : List Shader)

def Growth.apply (registry : Registry) : Growth → Registry
  | push shader => registry.push shader
  | append shaders => registry.append shaders

/-- The registry after some steps. -/
def grow (registry : Registry) (steps : List Growth) : Registry := steps.foldl Growth.apply registry

theorem Growth.apply_nonempty (hNonempty : registry.toList ≠ []) (step : Growth) :
    (step.apply registry).toList ≠ [] := by
  cases step with
  | push shader => exact append_nonempty hNonempty [shader]
  | append shaders => exact append_nonempty hNonempty shaders

theorem Growth.issues_prefix_apply (hNonempty : registry.toList ≠ []) (step : Growth) :
    registry.issues <+: (step.apply registry).issues := by
  cases step with
  | push shader => exact issues_prefix_append hNonempty [shader]
  | append shaders => exact issues_prefix_append hNonempty shaders

theorem issues_prefix_grow (hNonempty : registry.toList ≠ []) (steps : List Growth) :
    registry.issues <+: (registry.grow steps).issues := by
  -- A registry that is not empty stays so, which every step needs.
  induction steps generalizing registry with
  | nil => exact List.prefix_rfl
  | cons step rest ih =>
    have hStep := step.issues_prefix_apply hNonempty
    exact hStep.trans (ih (step.apply_nonempty hNonempty))

theorem not_accepted_grow (hNonempty : registry.toList ≠ []) (hRejected : ¬ registry.Accepted)
    (steps : List Growth) : ¬ (registry.grow steps).Accepted := by
  rw [accepted_iff_issues] at hRejected ⊢
  intro hNone
  have hPrefix := issues_prefix_grow hNonempty steps
  rw [hNone, List.prefix_nil] at hPrefix
  exact hRejected hPrefix

/-- The issues of a registry begin those of every registry that continues it, and two registries are
accepted as one exactly if both are accepted and have no name in common. So a part of an accepted
registry is accepted, and a rejected one does not become accepted by growing. -/
theorem check_composes :
    (∀ first second : Registry, first.toList ≠ [] → second.toList ≠ [] →
      first.issues <+: (first.append second.toList).issues ∧
        ((first.append second.toList).Accepted ↔
          first.Accepted ∧ second.Accepted ∧ ∀ name ∈ first.names, name ∉ second.names)) ∧
      (∀ registry part : Registry, registry.Accepted → part.toList ≠ [] →
        part.toList.Sublist registry.toList → part.Accepted) ∧
      ∀ (registry : Registry) (steps : List Growth), registry.toList ≠ [] → ¬ registry.Accepted →
        ¬ (registry.grow steps).Accepted := by
  refine ⟨fun first second hFirst hSecond => ⟨issues_prefix_append hFirst _, ?_⟩, ?_, ?_⟩
  · rw [accepted_iff_wellFormed, accepted_iff_wellFormed, accepted_iff_wellFormed]
    exact wellFormed_append_iff hFirst hSecond
  · intro registry part hAccepted hNonempty hPart
    rw [accepted_iff_wellFormed] at hAccepted ⊢
    exact hAccepted.sublist hNonempty hPart
  · exact fun registry steps hNonempty hRejected => not_accepted_grow hNonempty hRejected steps

/-- The registry of two shaders falls into two registries of one, and the one with a repeated name
cannot be mended. -/
theorem check_composes_sample :
    (ofList (sample.toList.take 1)).issues <+: sample.issues ∧
      (sample.Accepted ↔ (ofList (sample.toList.take 1)).Accepted ∧
        (ofList (sample.toList.drop 1)).Accepted ∧
          ∀ name ∈ (ofList (sample.toList.take 1)).names,
            name ∉ (ofList (sample.toList.drop 1)).names) ∧
      (ofList (sample.toList.drop 1)).Accepted ∧
      ¬ (twins.grow [.append sample.toList, .push (.simple ⟨"halo", "halo.frag"⟩)]).Accepted := by
  have hRejected : ¬ twins.Accepted := by
    rw [accepted_iff_issues]
    decide +kernel
  obtain ⟨hAppend, hPart, hGrow⟩ := check_composes
  obtain ⟨hPrefix, hIff⟩ := hAppend (ofList (sample.toList.take 1))
    (ofList (sample.toList.drop 1)) (List.cons_ne_nil _ _) (List.cons_ne_nil _ _)
  exact ⟨hPrefix, hIff,
    hPart sample _ sample_accepted (List.cons_ne_nil _ _) (List.drop_sublist 1 _),
    hGrow twins _ (List.cons_ne_nil _ _) hRejected⟩

end ShaderHandles.Registry
