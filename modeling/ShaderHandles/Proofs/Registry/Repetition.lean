import Mathlib.Data.List.Count
import Mathlib.Data.List.Perm.Basic
import ShaderHandles.Registry.Check

/-!
# Reports along a list

The members of a struct and the shaders of a registry are checked in the same way: from left to right,
each part by itself and for whether its name has been met. What is reported can be seen from two
sides. Place by place, a name has been met exactly if it stands among the names in front of it. Taken
together and without their order, the reports are those of the parts by themselves and one for each
repetition, and a name is repeated as often as it occurs, less one for its first occurrence.

* `repetitions`: the names of a list that have been met before, each time they are.
* `count_repetitions`: how often a name is among them.
* `reportsAfter`: the reports along a list.
* `reportsAfter_eq_flatMap`: the reports place by place.
* `reportsAfter_perm`: the reports without their order.
* `memberIssues_eq_reportsAfter`, `memberIssues_perm`: the check of the members of a struct.
* `Registry.issuesAfter_eq_reportsAfter`, `Registry.issuesAfter_perm`: the check of the shaders.
-/

namespace ShaderHandles

/-! ## Repetitions -/

/-- The names that are in `seen` or earlier in the list, once for each time they occur again. -/
def repetitions (seen : List String) : List String → List String
  | [] => []
  | name :: rest => (if name ∈ seen then [name] else []) ++ repetitions (name :: seen) rest

/-- The first occurrence of a name is no repetition unless the name has been met. -/
theorem count_repetitions (seen names : List String) (name : String) :
    (repetitions seen names).count name =
      if name ∈ seen then names.count name else names.count name - 1 := by
  induction names generalizing seen with
  | nil => simp [repetitions]
  | cons head rest ih =>
    rw [repetitions, List.count_append, ih, List.count_cons]
    by_cases hHead : head = name
    · subst hHead
      by_cases hSeen : head ∈ seen
      · simp [hSeen, Nat.add_comm]
      · simp [hSeen]
    · by_cases hSeen : head ∈ seen <;> simp [hHead, hSeen, Ne.symm hHead]

theorem repetitions_perm {seen first second : List String} (hOrder : first.Perm second) :
    (repetitions seen first).Perm (repetitions seen second) := by
  rw [List.perm_iff_count]
  intro name
  rw [count_repetitions, count_repetitions, hOrder.count_eq]

/-! ## Reports -/

section

variable {α : Type} (nameOf : α → String) (report : α → Bool → List Issue)

/-- The reports of the parts of a list, each by whether its name is in `seen` or stands in front of
it. -/
def reportsAfter (seen : List String) : List α → List Issue
  | [] => []
  | part :: rest =>
    report part (decide (nameOf part ∈ seen)) ++ reportsAfter (nameOf part :: seen) rest

/-- What has been met at a place is what stands in front of it. -/
theorem reportsAfter_eq_flatMap (seen : List String) (parts : List α) :
    reportsAfter nameOf report seen parts = parts.zipIdx.flatMap fun (part, place) =>
      report part (decide (nameOf part ∈ seen ∨ nameOf part ∈ (parts.map nameOf).take place)) := by
  induction parts generalizing seen with
  | nil => rfl
  | cons head rest ih =>
    have hMet (part : α) (place : Nat) :
        (nameOf part ∈ nameOf head :: seen ∨ nameOf part ∈ (rest.map nameOf).take place) ↔
          nameOf part ∈ seen ∨
            nameOf part ∈ ((head :: rest).map nameOf).take (place + 1) := by
      rw [List.map_cons, List.take_succ_cons, List.mem_cons, List.mem_cons, or_assoc, or_left_comm]
    rw [reportsAfter, ih, List.zipIdx_cons, List.flatMap_cons, List.zipIdx_succ, List.flatMap_map]
    simp only [hMet, List.take_zero, List.not_mem_nil, or_false]

variable {nameOf report}

/-- Without their order the reports are those of the parts by themselves and one for each
repetition. -/
theorem reportsAfter_perm {own : α → List Issue} {again : String → Issue}
    (hReport : ∀ part isMet,
      (report part isMet).Perm (own part ++ if isMet then [again (nameOf part)] else []))
    (seen : List String) (parts : List α) :
    (reportsAfter nameOf report seen parts).Perm
      (parts.flatMap own ++ (repetitions seen (parts.map nameOf)).map again) := by
  induction parts generalizing seen with
  | nil => exact .refl _
  | cons head rest ih =>
    have hAgain : (if nameOf head ∈ seen then [nameOf head] else []).map again =
        if decide (nameOf head ∈ seen) = true then [again (nameOf head)] else [] := by
      by_cases hSeen : nameOf head ∈ seen <;> simp [hSeen]
    rw [reportsAfter, List.flatMap_cons, List.map_cons, repetitions, List.map_append, hAgain]
    have hHead := (hReport head (decide (nameOf head ∈ seen))).append (ih (nameOf head :: seen))
    refine hHead.trans ?_
    rw [List.append_assoc, List.append_assoc]
    refine List.Perm.append_left _ ?_
    rw [← List.append_assoc, ← List.append_assoc]
    exact List.perm_append_comm.append_right _

end

/-! ## The checks -/

/-- The report of a member: its name by itself, then the repetition. -/
def memberReport (shader : String) (pathOf : String → String) (name : String) (isMet : Bool) :
    List Issue :=
  identifierIssues shader name ++ if isMet then [.fieldCollision shader (pathOf name)] else []

theorem memberIssues_eq_reportsAfter (shader : String) (pathOf : String → String)
    (seen names : List String) :
    memberIssues shader pathOf seen names =
      reportsAfter id (memberReport shader pathOf) seen names := by
  induction names generalizing seen with
  | nil => rfl
  | cons name rest ih => simp [memberIssues, reportsAfter, memberReport, ih]

theorem memberIssues_perm (shader : String) (pathOf : String → String) (seen names : List String) :
    (memberIssues shader pathOf seen names).Perm
      (names.flatMap (identifierIssues shader) ++
        (repetitions seen names).map fun name => .fieldCollision shader (pathOf name)) := by
  let again (name : String) : Issue := .fieldCollision shader (pathOf name)
  have hReport (name : String) (isMet : Bool) :
      (memberReport shader pathOf name isMet).Perm
        (identifierIssues shader name ++ if isMet then [again (id name)] else []) := .refl _
  have hPerm : (reportsAfter id (memberReport shader pathOf) seen names).Perm
      (names.flatMap (identifierIssues shader) ++ (repetitions seen (names.map id)).map again) :=
    reportsAfter_perm hReport seen names
  rwa [List.map_id, ← memberIssues_eq_reportsAfter] at hPerm

namespace Registry

/-- The report of a shader: the repetition of its name, then the shader by itself. -/
def shaderReport (shader : Shader) (isMet : Bool) : List Issue :=
  (if isMet then [.duplicateShader shader.name] else []) ++ shader.expand.issues

theorem issuesAfter_eq_reportsAfter (seen : List String) (shaders : List Shader) :
    issuesAfter seen shaders = reportsAfter Shader.name shaderReport seen shaders := by
  induction shaders generalizing seen with
  | nil => rfl
  | cons shader rest ih => simp [issuesAfter, reportsAfter, shaderReport, ih]

theorem issuesAfter_perm (seen : List String) (shaders : List Shader) :
    (issuesAfter seen shaders).Perm
      (shaders.flatMap (fun shader => shader.expand.issues) ++
        (repetitions seen (shaders.map Shader.name)).map .duplicateShader) := by
  rw [issuesAfter_eq_reportsAfter]
  have hReport (shader : Shader) (isMet : Bool) :
      (shaderReport shader isMet).Perm (shader.expand.issues ++
        if isMet then [.duplicateShader shader.name] else []) := List.perm_append_comm
  exact reportsAfter_perm hReport seen shaders

end Registry

end ShaderHandles
