import ShaderHandles.Proofs.Artifacts.Layout

/-!
# Well-formed registries

What a registry is like that passes the check: it has a shader, the names of its shaders are
distinct, and every shader is well-formed on its own. The check is a walk with a growing list of
names already seen; a list of names passes it exactly when the names are identifiers, distinct, and
none of them was seen before.

* `Registry.Accepted`: the check gives no failure.
* `Registry.accepted_iff_wellFormed`: the check accepts exactly the well-formed registries.
-/

namespace ShaderHandles

/-! ## One shader -/

/-- A shader whose names and source paths can be written into C. The members of its struct, the
program among them, are distinct, and so are the members of each group's struct, the selector among
them. -/
structure GeneralShader.WellFormed (shader : GeneralShader) : Prop where
  name : C.isIdentifier shader.name = true
  vertexPath : C.isQuotable shader.vertexPath = true
  fragmentPath : C.isQuotable shader.fragmentPath = true
  member : ∀ name ∈ shader.memberNames, C.isIdentifier name = true
  members_nodup : (Field.programMember :: shader.memberNames).Nodup
  variant : ∀ group ∈ shader.groups, ∀ name ∈ group.variants, C.isIdentifier name = true
  variants_nodup : ∀ group ∈ shader.groups, (Field.selectorMember :: group.variants).Nodup

theorem identifierIssues_eq_nil {shader name : String} :
    identifierIssues shader name = [] ↔ C.isIdentifier name = true := by
  unfold identifierIssues
  split <;> simp_all

theorem sourcePathIssues_eq_nil {shader path : String} :
    sourcePathIssues shader path = [] ↔ C.isQuotable path = true := by
  unfold sourcePathIssues
  split <;> simp_all

/-- The members of one struct raise no issue exactly when they are identifiers, distinct, and not
among those seen before. -/
theorem memberIssues_eq_nil {shader : String} {pathOf : String → String}
    {seen names : List String} :
    memberIssues shader pathOf seen names = [] ↔
      (∀ name ∈ names, C.isIdentifier name = true) ∧ names.Nodup ∧ ∀ name ∈ names, name ∉ seen := by
  induction names generalizing seen with
  | nil => simp [memberIssues]
  | cons name rest ih =>
    have hSeen : (if name ∈ seen then [Issue.fieldCollision shader (pathOf name)] else []) = [] ↔
        name ∉ seen := by
      split <;> simp_all
    rw [memberIssues, List.append_eq_nil_iff, List.append_eq_nil_iff, identifierIssues_eq_nil,
      hSeen, ih, List.nodup_cons]
    constructor
    · rintro ⟨⟨hName, hFresh⟩, hRest, hNodup, hUnseen⟩
      refine ⟨?_, ⟨?_, hNodup⟩, ?_⟩
      · intro other hOther
        rcases List.mem_cons.mp hOther with rfl | hOther
        · exact hName
        · exact hRest other hOther
      · exact fun hMem => hUnseen name hMem List.mem_cons_self
      · intro other hOther
        rcases List.mem_cons.mp hOther with rfl | hOther
        · exact hFresh
        · exact fun hMem => hUnseen other hOther (List.mem_cons_of_mem _ hMem)
    · rintro ⟨hNames, ⟨hNotMem, hNodup⟩, hUnseen⟩
      refine ⟨⟨hNames name List.mem_cons_self, hUnseen name List.mem_cons_self⟩, ?_, hNodup, ?_⟩
      · exact fun other hOther => hNames other (List.mem_cons_of_mem _ hOther)
      · intro other hOther hMem
        rcases List.mem_cons.mp hMem with rfl | hMem
        · exact hNotMem hOther
        · exact hUnseen other (List.mem_cons_of_mem _ hOther) hMem

/-- The members of a struct that has a member of its own already. -/
theorem memberIssues_reserved_eq_nil {shader reserved : String} {pathOf : String → String}
    {names : List String} :
    memberIssues shader pathOf [reserved] names = [] ↔
      (∀ name ∈ names, C.isIdentifier name = true) ∧ (reserved :: names).Nodup := by
  rw [memberIssues_eq_nil, List.nodup_cons]
  constructor
  · rintro ⟨hNames, hNodup, hUnseen⟩
    exact ⟨hNames, fun hMem => hUnseen reserved hMem List.mem_cons_self, hNodup⟩
  · rintro ⟨hNames, hNotMem, hNodup⟩
    refine ⟨hNames, hNodup, fun name hMem hSeen => ?_⟩
    rw [List.mem_singleton.mp hSeen] at hMem
    exact hNotMem hMem

theorem GeneralShader.issues_eq_nil {shader : GeneralShader} :
    shader.issues = [] ↔ shader.WellFormed := by
  simp only [issues, List.append_eq_nil_iff, List.flatMap_eq_nil_iff, identifierIssues_eq_nil,
    sourcePathIssues_eq_nil, memberIssues_reserved_eq_nil]
  constructor
  · rintro ⟨⟨⟨⟨hName, hVertex⟩, hFragment⟩, hMembers, hNodup⟩, hGroups⟩
    exact ⟨hName, hVertex, hFragment, hMembers, hNodup, fun group hGroup => (hGroups group hGroup).1,
      fun group hGroup => (hGroups group hGroup).2⟩
  · intro h
    exact ⟨⟨⟨⟨h.name, h.vertexPath⟩, h.fragmentPath⟩, h.member, h.members_nodup⟩,
      fun group hGroup => ⟨h.variant group hGroup, h.variants_nodup group hGroup⟩⟩

/-! ## The registry -/

namespace Registry

/-- The check gives no failure. -/
def Accepted (registry : Registry) : Prop := registry.validate.result = .ok ()

/-- A registry with at least one shader, distinct names and well-formed shaders. -/
structure WellFormed (registry : Registry) : Prop where
  nonempty : registry.toList ≠ []
  names_nodup : registry.names.Nodup
  shader : ∀ shader ∈ registry.toList, shader.expand.WellFormed

theorem accepted_iff_issues {registry : Registry} :
    registry.Accepted ↔ registry.issues = [] := by
  unfold Accepted validate
  cases hIssues : registry.issues with
  | nil => exact iff_of_true rfl rfl
  | cons issue rest => exact iff_of_false (fun h => nomatch h) (List.cons_ne_nil issue rest)

theorem issuesAfter_eq_nil {seen : List String} {shaders : List Shader} :
    issuesAfter seen shaders = [] ↔
      (∀ shader ∈ shaders, shader.expand.WellFormed) ∧ (shaders.map Shader.name).Nodup ∧
        ∀ shader ∈ shaders, shader.name ∉ seen := by
  induction shaders generalizing seen with
  | nil => simp [issuesAfter]
  | cons shader rest ih =>
    have hSeen : (if shader.name ∈ seen then [Issue.duplicateShader shader.name] else []) = [] ↔
        shader.name ∉ seen := by
      split <;> simp_all
    rw [issuesAfter, List.append_eq_nil_iff, List.append_eq_nil_iff, hSeen,
      GeneralShader.issues_eq_nil, ih, List.map_cons, List.nodup_cons]
    constructor
    · rintro ⟨⟨hFresh, hShader⟩, hRest, hNodup, hUnseen⟩
      refine ⟨?_, ⟨?_, hNodup⟩, ?_⟩
      · intro other hOther
        rcases List.mem_cons.mp hOther with rfl | hOther
        · exact hShader
        · exact hRest other hOther
      · intro hMem
        obtain ⟨other, hOther, hName⟩ := List.mem_map.mp hMem
        exact hUnseen other hOther (hName ▸ List.mem_cons_self)
      · intro other hOther
        rcases List.mem_cons.mp hOther with rfl | hOther
        · exact hFresh
        · exact fun hMem => hUnseen other hOther (List.mem_cons_of_mem _ hMem)
    · rintro ⟨hShaders, ⟨hNotMem, hNodup⟩, hUnseen⟩
      refine ⟨⟨hUnseen shader List.mem_cons_self, hShaders shader List.mem_cons_self⟩,
        fun other hOther => hShaders other (List.mem_cons_of_mem _ hOther), hNodup, ?_⟩
      intro other hOther hMem
      rcases List.mem_cons.mp hMem with hName | hMem
      · exact hNotMem (List.mem_map.mpr ⟨other, hOther, hName⟩)
      · exact hUnseen other (List.mem_cons_of_mem _ hOther) hMem

/-- The check accepts exactly the well-formed registries. -/
theorem accepted_iff_wellFormed {registry : Registry} :
    registry.Accepted ↔ registry.WellFormed := by
  rw [accepted_iff_issues]
  by_cases hEmpty : registry.toList = []
  · rw [issues_of_empty hEmpty]
    exact ⟨fun h => absurd h (List.cons_ne_nil _ _), fun h => absurd hEmpty h.nonempty⟩
  · rw [issues_of_nonempty hEmpty, issuesAfter_eq_nil, ← names_eq]
    constructor
    · rintro ⟨hShaders, hNodup, -⟩
      exact ⟨hEmpty, hNodup, hShaders⟩
    · intro h
      exact ⟨h.shader, h.names_nodup, fun shader _ => List.not_mem_nil⟩

/-! ## A registry with both kinds of shaders -/

/-- A shader with a subroutine group and a simple shader. -/
def sample : Registry := ofList [
  .general {
    name := "tube", vertexPath := "tube.vert", fragmentPath := "tube.frag",
    attributes := ["vertex"], uniforms := ["projection", "color"],
    groups := [⟨"mode", ["solid", "dashed"]⟩] },
  .simple { name := "stealthaura", fragmentPath := "stealthaura.frag" }]

theorem sample_accepted : sample.Accepted := by
  rw [accepted_iff_issues]
  decide +kernel

end Registry

end ShaderHandles
