import ShaderHandles.Registry.Basic
import ShaderHandles.Registry.Issue
import ShaderHandles.Shader.Field
import ShaderHandles.C.Identifier
import ShaderHandles.C.Literal

/-!
# Checking a registry

The check lists every issue, shader by shader. In a shader its name comes first, then the source
paths, then the members of its struct, then those of the groups' structs; a member is reported as an
invalid identifier before it is reported as a repetition.

* `GeneralShader.issues`: the issues of one shader on its own.
* `Registry.issues`: all issues; the empty registry has one of its own.
* `Registry.issuesAfter_append`: the check goes through a list from left to right.
-/

namespace ShaderHandles

def identifierIssues (shader name : String) : List Issue :=
  if C.isIdentifier name then [] else [.invalidIdentifier shader name]

def sourcePathIssues (shader path : String) : List Issue :=
  if C.isQuotable path then [] else [.invalidSourcePath shader path]

/-- The issues of the members of one struct. `seen` holds the members before them, and `pathOf`
gives the path under which a repetition is reported. -/
def memberIssues (shader : String) (pathOf : String → String) (seen : List String) :
    List String → List Issue
  | [] => []
  | name :: rest =>
    identifierIssues shader name ++
      (if name ∈ seen then [.fieldCollision shader (pathOf name)] else []) ++
      memberIssues shader pathOf (name :: seen) rest

namespace GeneralShader

/-- The members of the shader's struct after the program. -/
def memberNames (shader : GeneralShader) : List String :=
  shader.attributes ++ shader.uniforms ++ shader.groups.map SubroutineGroup.name

def issues (shader : GeneralShader) : List Issue :=
  identifierIssues shader.name shader.name ++
    sourcePathIssues shader.name shader.vertexPath ++
    sourcePathIssues shader.name shader.fragmentPath ++
    memberIssues shader.name id [Field.programMember] shader.memberNames ++
    shader.groups.flatMap fun group =>
      memberIssues shader.name (Field.groupPath group.name) [Field.selectorMember] group.variants

end GeneralShader

namespace Registry

/-- The issues of shaders that stand after shaders of the names `seen`. -/
def issuesAfter (seen : List String) : List Shader → List Issue
  | [] => []
  | shader :: rest =>
    (if shader.name ∈ seen then [.duplicateShader shader.name] else []) ++
      shader.expand.issues ++ issuesAfter (shader.name :: seen) rest

/-- All issues of a registry, in order. -/
def issues (registry : Registry) : List Issue :=
  if registry.isEmpty then [.emptyRegistry] else issuesAfter [] registry.toList

theorem issues_of_empty {registry : Registry} (hEmpty : registry.toList = []) :
    registry.issues = [.emptyRegistry] := by
  unfold issues isEmpty
  rw [show registry.shaders = [] from hEmpty]
  rfl

theorem issues_of_nonempty {registry : Registry} (hNonempty : registry.toList ≠ []) :
    registry.issues = issuesAfter [] registry.toList := by
  have hShaders : registry.shaders.isEmpty = false := List.isEmpty_eq_false_iff.mpr hNonempty
  unfold issues isEmpty
  rw [hShaders]
  rfl

theorem issuesAfter_append (seen : List String) (first second : List Shader) :
    issuesAfter seen (first ++ second) =
      issuesAfter seen first ++
        issuesAfter ((first.map Shader.name).reverse ++ seen) second := by
  induction first generalizing seen with
  | nil => rfl
  | cons shader rest ih => simp [issuesAfter, ih]

end Registry

end ShaderHandles
