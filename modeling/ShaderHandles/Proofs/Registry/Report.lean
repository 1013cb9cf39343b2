import Mathlib.Data.List.Forall2
import ShaderHandles.Proofs.Registry.Repetition

/-!
# The report of a registry

What the check reports, said without a walk. Every part of a registry has its place in the report, in
the order of the registry: the name of a shader, its two source paths, the members of its struct and
the members of each group. At its place a part is reported once for each rule it breaks, and nothing
else is reported. So the number of reports follows from the numbers of occurrences: a name or a path
that cannot be written is reported each time it occurs, and a repeated name each time but the first,
or each time if it is reserved.

* `MembersReported`: the report of the members of one struct.
* `GeneralShader.Reported`: the report of one shader.
* `Registry.Reported`: the report of a registry.
* `Registry.reported_iff_issues`: it is the list of issues that the check gives, and no other list is.
-/

namespace ShaderHandles

/-! ## What is reported -/

/-- The report of the members of a struct that has a reserved member. -/
structure MembersReported (shader : String) (pathOf : String → String) (reserved : String)
    (names : List String) (issues : List Issue) : Prop where
  /-- Every occurrence is reported at its place: first if it is no identifier, then if it is reserved
  or stands in front of its place as well. -/
  inOrder : issues = names.zipIdx.flatMap fun (name, place) =>
    (if C.isIdentifier name then [] else [.invalidIdentifier shader name]) ++
      if name = reserved ∨ name ∈ names.take place then [.fieldCollision shader (pathOf name)]
      else []
  invalid : ∀ name, issues.count (.invalidIdentifier shader name) =
    if C.isIdentifier name then 0 else names.count name
  collisions : ∀ name, issues.count (.fieldCollision shader (pathOf name)) =
    if name = reserved then names.count name else names.count name - 1

namespace GeneralShader

/-- All names of a shader, each as often as it occurs. -/
def occurringNames (shader : GeneralShader) : List String :=
  shader.name :: (shader.attributes ++ shader.uniforms ++
    shader.groups.map SubroutineGroup.name ++ shader.groups.flatMap SubroutineGroup.variants)

/-- The report of a shader by itself. -/
structure Reported (shader : GeneralShader) (issues : List Issue) : Prop where
  /-- The name, the two paths, the members of the struct, and then the members of each group. -/
  inOrder : ∃ members variants,
    MembersReported shader.name id "program"
        (shader.attributes ++ shader.uniforms ++ shader.groups.map SubroutineGroup.name) members ∧
      List.Forall₂ (fun group part => MembersReported shader.name (group.name ++ "." ++ ·) "uniform"
        group.variants part) shader.groups variants ∧
      issues =
        (if C.isIdentifier shader.name then []
          else [.invalidIdentifier shader.name shader.name]) ++
        (if C.isQuotable shader.vertexPath then []
          else [.invalidSourcePath shader.name shader.vertexPath]) ++
        (if C.isQuotable shader.fragmentPath then []
          else [.invalidSourcePath shader.name shader.fragmentPath]) ++
        members ++ variants.flatten
  invalid : ∀ name, issues.count (.invalidIdentifier shader.name name) =
    if C.isIdentifier name then 0 else shader.occurringNames.count name
  unsafePaths : ∀ path, issues.count (.invalidSourcePath shader.name path) =
    if C.isQuotable path then 0 else [shader.vertexPath, shader.fragmentPath].count path

end GeneralShader

namespace Registry

/-- The report of the shader at a place: the repetition of its name, then the shader by itself. -/
def ReportedAt (registry : Registry) (entry : Shader × Nat) (issues : List Issue) : Prop :=
  ∃ own, entry.1.expand.Reported own ∧
    issues = (if entry.1.name ∈ registry.names.take entry.2 then [.duplicateShader entry.1.name]
      else []) ++ own

/-- The report of a registry. -/
structure Reported (registry : Registry) (issues : List Issue) : Prop where
  empty : .emptyRegistry ∈ issues ↔ registry.toList = []
  alone : registry.toList = [] → issues = [.emptyRegistry]
  /-- The reports of the shaders follow each other in the order of the registry. -/
  inOrder : registry.toList ≠ [] → ∃ parts,
    List.Forall₂ registry.ReportedAt registry.toList.zipIdx parts ∧ issues = parts.flatten
  duplicates : ∀ name, issues.count (.duplicateShader name) = registry.names.count name - 1

end Registry

/-! ## Numbers of reports -/

/-- A test of every text reports a failing text as often as it occurs. -/
theorem count_failing {mark : String → Issue} (hMark : Function.Injective mark)
    (passes : String → Bool) (texts : List String) (text : String) :
    (texts.flatMap fun text => if passes text then [] else [mark text]).count (mark text) =
      if passes text then 0 else texts.count text := by
  induction texts with
  | nil => simp
  | cons head rest ih =>
    rw [List.flatMap_cons, List.count_append, ih, List.count_cons]
    by_cases hHead : head = text
    · subst hHead
      by_cases hPasses : passes head = true <;> simp [hPasses, Nat.add_comm]
    · have hOther : mark head ≠ mark text := fun hEq => hHead (hMark hEq)
      by_cases hPasses : passes head = true <;> simp [hPasses, hHead, hOther]

theorem count_invalid_identifierIssues (shader : String) (names : List String) (name : String) :
    (names.flatMap (identifierIssues shader)).count (.invalidIdentifier shader name) =
      if C.isIdentifier name then 0 else names.count name :=
  count_failing (fun _ _ hEq => (Issue.invalidIdentifier.inj hEq).2) C.isIdentifier names name

theorem count_unsafe_sourcePathIssues (shader : String) (paths : List String) (path : String) :
    (paths.flatMap (sourcePathIssues shader)).count (.invalidSourcePath shader path) =
      if C.isQuotable path then 0 else paths.count path :=
  count_failing (fun _ _ hEq => (Issue.invalidSourcePath.inj hEq).2) C.isQuotable paths path

section

variable {shader reserved name : String} {pathOf : String → String} {names : List String}

theorem eq_of_mem_identifierIssues {issue : Issue} (hIssue : issue ∈ identifierIssues shader name) :
    issue = .invalidIdentifier shader name := by
  unfold identifierIssues at hIssue
  split at hIssue
  · exact absurd hIssue List.not_mem_nil
  · exact List.mem_singleton.mp hIssue

theorem eq_of_mem_sourcePathIssues {path : String} {issue : Issue}
    (hIssue : issue ∈ sourcePathIssues shader path) : issue = .invalidSourcePath shader path := by
  unfold sourcePathIssues at hIssue
  split at hIssue
  · exact absurd hIssue List.not_mem_nil
  · exact List.mem_singleton.mp hIssue

theorem eq_of_mem_memberIssues {seen : List String} {issue : Issue}
    (hIssue : issue ∈ memberIssues shader pathOf seen names) :
    (∃ name, issue = .invalidIdentifier shader name) ∨
      ∃ name, issue = .fieldCollision shader (pathOf name) := by
  rcases List.mem_append.mp ((memberIssues_perm shader pathOf seen names).mem_iff.mp hIssue) with
    hInvalid | hCollision
  · obtain ⟨name, -, hName⟩ := List.mem_flatMap.mp hInvalid
    exact .inl ⟨name, eq_of_mem_identifierIssues hName⟩
  · obtain ⟨name, -, hName⟩ := List.mem_map.mp hCollision
    exact .inr ⟨name, hName.symm⟩

theorem count_invalid_memberIssues (seen : List String) :
    (memberIssues shader pathOf seen names).count (.invalidIdentifier shader name) =
      if C.isIdentifier name then 0 else names.count name := by
  have hCollisions : ((repetitions seen names).map fun name =>
      Issue.fieldCollision shader (pathOf name)).count (.invalidIdentifier shader name) = 0 := by
    rw [List.count_eq_zero]
    intro hMem
    obtain ⟨other, -, hEq⟩ := List.mem_map.mp hMem
    exact nomatch hEq
  rw [(memberIssues_perm shader pathOf seen names).count_eq, List.count_append, hCollisions,
    count_invalid_identifierIssues, Nat.add_zero]

theorem count_collisions_memberIssues (hPath : Function.Injective pathOf) :
    (memberIssues shader pathOf [reserved] names).count (.fieldCollision shader (pathOf name)) =
      if name = reserved then names.count name else names.count name - 1 := by
  have hInvalid : (names.flatMap (identifierIssues shader)).count
      (.fieldCollision shader (pathOf name)) = 0 := by
    rw [List.count_eq_zero]
    intro hMem
    obtain ⟨other, -, hOther⟩ := List.mem_flatMap.mp hMem
    exact nomatch eq_of_mem_identifierIssues hOther
  have hMark : Function.Injective fun name => Issue.fieldCollision shader (pathOf name) :=
    fun _ _ hEq => hPath (Issue.fieldCollision.inj hEq).2
  rw [(memberIssues_perm shader pathOf [reserved] names).count_eq, List.count_append, hInvalid,
    List.count_map_of_injective _ _ hMark, count_repetitions, Nat.zero_add]
  simp only [List.mem_singleton]

/-! ## Members of a struct -/

theorem memberIssues_inOrder (shader : String) (pathOf : String → String) (reserved : String)
    (names : List String) :
    memberIssues shader pathOf [reserved] names = names.zipIdx.flatMap fun (name, place) =>
      (if C.isIdentifier name then [] else [.invalidIdentifier shader name]) ++
        if name = reserved ∨ name ∈ names.take place then [.fieldCollision shader (pathOf name)]
        else [] := by
  rw [memberIssues_eq_reportsAfter, reportsAfter_eq_flatMap]
  simp only [memberReport, identifierIssues, List.map_id, id, List.mem_singleton, decide_eq_true_eq]

theorem membersReported_iff (hPath : Function.Injective pathOf) {issues : List Issue} :
    MembersReported shader pathOf reserved names issues ↔
      issues = memberIssues shader pathOf [reserved] names := by
  constructor
  · exact fun h => h.inOrder.trans (memberIssues_inOrder shader pathOf reserved names).symm
  · rintro rfl
    exact ⟨memberIssues_inOrder shader pathOf reserved names,
      fun _ => count_invalid_memberIssues [reserved], fun _ => count_collisions_memberIssues hPath⟩

end

/-! ## One shader -/

namespace GeneralShader

variable {shader : GeneralShader}

/-- The issues of the members of a group. -/
def groupIssues (shader : GeneralShader) (group : SubroutineGroup) : List Issue :=
  memberIssues shader.name (Field.groupPath group.name) [Field.selectorMember] group.variants

theorem groupPath_injective (group : String) : Function.Injective (Field.groupPath group) :=
  fun _ _ hEq => (String.append_right_inj (group ++ ".")).mp hEq

theorem issues_eq (shader : GeneralShader) :
    shader.issues = identifierIssues shader.name shader.name ++
      sourcePathIssues shader.name shader.vertexPath ++
      sourcePathIssues shader.name shader.fragmentPath ++
      memberIssues shader.name id [Field.programMember] shader.memberNames ++
      (shader.groups.map shader.groupIssues).flatten := by
  rw [← List.flatMap_def]
  rfl

theorem count_invalid_groupIssues (shader : GeneralShader) (name : String) :
    (shader.groups.map shader.groupIssues).flatten.count (.invalidIdentifier shader.name name) =
      if C.isIdentifier name then 0
      else (shader.groups.flatMap SubroutineGroup.variants).count name := by
  induction shader.groups with
  | nil => simp
  | cons group rest ih =>
    rw [List.map_cons, List.flatten_cons, List.count_append, ih, groupIssues,
      count_invalid_memberIssues, List.flatMap_cons, List.count_append]
    split <;> rfl

theorem count_unsafe_groupIssues (shader : GeneralShader) (path : String) :
    (shader.groups.map shader.groupIssues).flatten.count (.invalidSourcePath shader.name path) = 0 := by
  rw [List.count_eq_zero]
  intro hMem
  obtain ⟨part, hPart, hIssue⟩ := List.mem_flatten.mp hMem
  obtain ⟨group, -, rfl⟩ := List.mem_map.mp hPart
  rcases eq_of_mem_memberIssues hIssue with ⟨name, hEq⟩ | ⟨name, hEq⟩ <;> exact nomatch hEq

theorem count_invalid_issues (shader : GeneralShader) (name : String) :
    shader.issues.count (.invalidIdentifier shader.name name) =
      if C.isIdentifier name then 0 else shader.occurringNames.count name := by
  have hOwn := count_invalid_identifierIssues shader.name [shader.name] name
  rw [List.flatMap_singleton] at hOwn
  have hPaths : (sourcePathIssues shader.name shader.vertexPath ++
      sourcePathIssues shader.name shader.fragmentPath).count
        (.invalidIdentifier shader.name name) = 0 := by
    rw [List.count_eq_zero]
    intro hMem
    rcases List.mem_append.mp hMem with hVertex | hFragment
    · exact nomatch eq_of_mem_sourcePathIssues hVertex
    · exact nomatch eq_of_mem_sourcePathIssues hFragment
  have hNames : shader.occurringNames = [shader.name] ++ (shader.memberNames ++
      shader.groups.flatMap SubroutineGroup.variants) := rfl
  rw [issues_eq, List.append_assoc (identifierIssues _ _), List.count_append, List.count_append,
    List.count_append, hOwn, hPaths, count_invalid_memberIssues, count_invalid_groupIssues, hNames,
    List.count_append, List.count_append]
  split <;> omega

theorem count_unsafe_issues (shader : GeneralShader) (path : String) :
    shader.issues.count (.invalidSourcePath shader.name path) =
      if C.isQuotable path then 0 else [shader.vertexPath, shader.fragmentPath].count path := by
  have hPaths := count_unsafe_sourcePathIssues shader.name
    [shader.vertexPath, shader.fragmentPath] path
  rw [List.flatMap_cons, List.flatMap_singleton] at hPaths
  have hName : (identifierIssues shader.name shader.name).count
      (.invalidSourcePath shader.name path) = 0 := by
    rw [List.count_eq_zero]
    exact fun hMem => nomatch eq_of_mem_identifierIssues hMem
  have hMembers : (memberIssues shader.name id [Field.programMember] shader.memberNames).count
      (.invalidSourcePath shader.name path) = 0 := by
    rw [List.count_eq_zero]
    intro hMem
    rcases eq_of_mem_memberIssues hMem with ⟨name, hEq⟩ | ⟨name, hEq⟩ <;> exact nomatch hEq
  rw [issues_eq, List.append_assoc (identifierIssues _ _), List.count_append, List.count_append,
    List.count_append, hName, hPaths, hMembers, count_unsafe_groupIssues]
  omega

theorem eq_of_mem_issues {issue : Issue} (hIssue : issue ∈ shader.issues) :
    (∃ name, issue = .invalidIdentifier shader.name name) ∨
      (∃ path, issue = .invalidSourcePath shader.name path) ∨
        ∃ field, issue = .fieldCollision shader.name field := by
  have hMember {pathOf : String → String} {seen names : List String}
      (hMem : issue ∈ memberIssues shader.name pathOf seen names) :
      (∃ name, issue = .invalidIdentifier shader.name name) ∨
        ∃ field, issue = .fieldCollision shader.name field :=
    (eq_of_mem_memberIssues hMem).imp_right fun ⟨name, hEq⟩ => ⟨pathOf name, hEq⟩
  simp only [issues, List.mem_append, List.mem_flatMap] at hIssue
  rcases hIssue with (((hName | hVertex) | hFragment) | hMembers) | ⟨group, -, hVariants⟩
  · exact .inl ⟨_, eq_of_mem_identifierIssues hName⟩
  · exact .inr (.inl ⟨_, eq_of_mem_sourcePathIssues hVertex⟩)
  · exact .inr (.inl ⟨_, eq_of_mem_sourcePathIssues hFragment⟩)
  · exact (hMember hMembers).imp_right .inr
  · exact (hMember hVariants).imp_right .inr

/-- The groups of a shader, each with the report of its members. -/
theorem variantsReported_iff {parts : List (List Issue)} :
    List.Forall₂ (fun group part => MembersReported shader.name (Field.groupPath group.name)
      Field.selectorMember group.variants part) shader.groups parts ↔
        parts = shader.groups.map shader.groupIssues := by
  have hGroup (group : SubroutineGroup) (part : List Issue) :
      MembersReported shader.name (Field.groupPath group.name) Field.selectorMember group.variants
        part ↔ shader.groupIssues group = part := by
    rw [membersReported_iff (groupPath_injective group.name), eq_comm]
    rfl
  simp only [hGroup]
  rw [← List.forall₂_map_left_iff, List.forall₂_eq_eq_eq, eq_comm]

theorem reported_iff {issues : List Issue} : shader.Reported issues ↔ issues = shader.issues := by
  constructor
  · intro h
    obtain ⟨members, variants, hMembers, hVariants, hIssues⟩ := h.inOrder
    rw [hIssues, (membersReported_iff Function.injective_id).mp hMembers,
      variantsReported_iff.mp hVariants, issues_eq]
    rfl
  · rintro rfl
    refine ⟨⟨_, _, (membersReported_iff Function.injective_id).mpr rfl,
      variantsReported_iff.mpr rfl, ?_⟩, shader.count_invalid_issues, shader.count_unsafe_issues⟩
    rw [issues_eq]
    rfl

end GeneralShader

/-! ## The registry -/

namespace Registry

variable {registry : Registry}

/-- The issues of the shader at a place. -/
def issuesAt (registry : Registry) (entry : Shader × Nat) : List Issue :=
  (if entry.1.name ∈ registry.names.take entry.2 then [.duplicateShader entry.1.name] else []) ++
    entry.1.expand.issues

theorem issuesAfter_nil (registry : Registry) :
    issuesAfter [] registry.toList = (registry.toList.zipIdx.map registry.issuesAt).flatten := by
  rw [issuesAfter_eq_reportsAfter, reportsAfter_eq_flatMap, ← List.flatMap_def]
  simp only [shaderReport, List.not_mem_nil, false_or, decide_eq_true_eq]
  rfl

theorem reportedAt_iff {entry : Shader × Nat} {issues : List Issue} :
    registry.ReportedAt entry issues ↔ registry.issuesAt entry = issues := by
  constructor
  · rintro ⟨own, hOwn, rfl⟩
    rw [GeneralShader.reported_iff.mp hOwn]
    rfl
  · rintro rfl
    exact ⟨_, GeneralShader.reported_iff.mpr rfl, rfl⟩

theorem partsReported_iff {parts : List (List Issue)} :
    List.Forall₂ registry.ReportedAt registry.toList.zipIdx parts ↔
      parts = registry.toList.zipIdx.map registry.issuesAt := by
  have hPart (entry : Shader × Nat) (part : List Issue) :
      registry.ReportedAt entry part ↔ registry.issuesAt entry = part := reportedAt_iff
  rw [eq_comm, ← List.forall₂_eq_eq_eq, List.forall₂_map_left_iff]
  exact ⟨fun h => h.imp fun _ _ => (hPart _ _).mp, fun h => h.imp fun _ _ => (hPart _ _).mpr⟩

theorem count_duplicateShader (registry : Registry) (name : String) :
    registry.issues.count (.duplicateShader name) = registry.names.count name - 1 := by
  by_cases hEmpty : registry.toList = []
  · rw [issues_of_empty hEmpty, names_eq, hEmpty]
    rfl
  · have hOwn : (registry.toList.flatMap fun shader => shader.expand.issues).count
        (.duplicateShader name) = 0 := by
      rw [List.count_eq_zero]
      intro hMem
      obtain ⟨shader, -, hIssue⟩ := List.mem_flatMap.mp hMem
      rcases GeneralShader.eq_of_mem_issues hIssue with ⟨_, hEq⟩ | ⟨_, hEq⟩ | ⟨_, hEq⟩ <;>
        exact nomatch hEq
    have hMark : Function.Injective Issue.duplicateShader :=
      fun _ _ hEq => Issue.duplicateShader.inj hEq
    rw [issues_of_nonempty hEmpty, (issuesAfter_perm [] registry.toList).count_eq,
      List.count_append, hOwn, List.count_map_of_injective _ _ hMark, count_repetitions, ← names_eq,
      if_neg List.not_mem_nil, Nat.zero_add]

theorem emptyRegistry_mem_issues : .emptyRegistry ∈ registry.issues ↔ registry.toList = [] := by
  constructor
  · intro hMem
    by_contra hNonempty
    rw [issues_of_nonempty hNonempty, (issuesAfter_perm [] registry.toList).mem_iff,
      List.mem_append, List.mem_flatMap, List.mem_map] at hMem
    rcases hMem with ⟨shader, -, hIssue⟩ | ⟨name, -, hEq⟩
    · rcases GeneralShader.eq_of_mem_issues hIssue with ⟨_, hEq⟩ | ⟨_, hEq⟩ | ⟨_, hEq⟩ <;>
        exact nomatch hEq
    · exact nomatch hEq
  · intro hEmpty
    rw [issues_of_empty hEmpty]
    exact List.mem_singleton_self _

/-- The report of a registry is the list of issues that the check gives. No other list is one, so
every issue has its cause and its place, and is there as often as its cause. -/
theorem reported_iff_issues (registry : Registry) (issues : List Issue) :
    registry.Reported issues ↔ issues = registry.issues := by
  constructor
  · intro h
    by_cases hEmpty : registry.toList = []
    · rw [h.alone hEmpty, issues_of_empty hEmpty]
    · obtain ⟨parts, hParts, hIssues⟩ := h.inOrder hEmpty
      rw [hIssues, partsReported_iff.mp hParts, issues_of_nonempty hEmpty, issuesAfter_nil]
  · rintro rfl
    refine ⟨emptyRegistry_mem_issues, issues_of_empty, fun hNonempty => ?_,
      registry.count_duplicateShader⟩
    refine ⟨_, partsReported_iff.mpr rfl, ?_⟩
    rw [issues_of_nonempty hNonempty, issuesAfter_nil]

end Registry

end ShaderHandles
