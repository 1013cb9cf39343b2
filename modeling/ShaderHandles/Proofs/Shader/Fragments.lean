import ShaderHandles.Proofs.Artifacts.Container

/-!
# The two fragments of a shader

The lines of a shader in the load routine and its lines in the container follow the paths of its
fields, for all settings and for every shader, with repeated, empty or strange names as well. In the
load routine the statements stand one behind the other, and the check of the capability surrounds
those of the groups and no other.

* `Shader.statementLines`: the lines of the load routine without the check.
* `Shader.FragmentsAgree`: what the two fragments have to do with the paths.
* `Shader.fragments_agree`: every shader has it.
-/

namespace ShaderHandles

namespace Shader

/-- The paths of the fields of the groups: the selector of each group and its variants. -/
def groupPaths (shader : Shader) : List String :=
  shader.expand.groups.flatMap fun group =>
    ("uniform" :: group.variants).map fun member => group.name ++ "." ++ member

/-- The number of the statements in front of the check: the program's, the attributes' and the
uniforms'. -/
def guardPlace (shader : Shader) : Nat :=
  1 + shader.expand.attributes.length + shader.expand.uniforms.length

/-- The lines between the check and the line that closes it. -/
def guardedStatements (settings : Settings) (shader : Shader) : List String :=
  ((shader.loadLines settings).drop (shader.guardPlace + 1)).dropLast

/-- The lines of the load routine without the check and the line that closes it. -/
def statementLines (settings : Settings) (shader : Shader) : List String :=
  if shader.expand.groups = [] then shader.loadLines settings
  else (shader.loadLines settings).take shader.guardPlace ++ shader.guardedStatements settings

/-- How the statement of a field begins after its indentation. -/
def target (settings : Settings) (shader : Shader) (path : String) : String :=
  settings.layout.container ++ "." ++ shader.name ++ "." ++ path ++ " = "

/-- What the fragments of a shader have to do with the paths of its fields. -/
structure FragmentsAgree (shader : Shader) (settings : Settings) : Prop where
  length_loadLines : (shader.loadLines settings).length =
    shader.fieldPaths.length + if shader.expand.groups = [] then 0 else 2
  check : shader.expand.groups ≠ [] → (shader.loadLines settings)[shader.guardPlace]? =
    some (Indent.member ++ "if (" ++ settings.api.hasCapability ++ "( " ++
      settings.api.subroutineCapability ++ " )) \x7b")
  closing : shader.expand.groups ≠ [] →
    (shader.loadLines settings).getLast? = some (Indent.member ++ "\x7d")
  /-- Between the two stand the statements of the groups' fields. -/
  guarded : shader.expand.groups ≠ [] →
    List.Forall₂ (fun path line => ∃ rest, line = Indent.field ++ shader.target settings path ++ rest)
      shader.groupPaths (shader.guardedStatements settings)
  length_statementLines : (shader.statementLines settings).length = shader.fieldPaths.length
  /-- The statements follow the paths, and those in front of the check are indented less. -/
  statements : ∀ index path, shader.fieldPaths[index]? = some path →
    ∃ rest, (shader.statementLines settings)[index]? =
      some ((if index < shader.guardPlace then Indent.member else Indent.field) ++
        shader.target settings path ++ rest)
  /-- The declaration is read as a nesting of structs whose handles are the fields in their order,
  and a simple shader is declared by one line. -/
  declaration : match shader with
    | general described => ∀ fields,
        settings.declaredFields? fields (shader.declaration settings) =
          some [(described.name, shader.fieldPaths)]
    | simple _ => (shader.declaration settings).length = 1

/-! ## The lines of the load routine -/

section

variable (settings : Settings) (shader : Shader)

def plainStatements : List String :=
  shader.expand.plainFields.map (shader.expand.loadStatement settings Indent.member)

def groupStatements : List String :=
  shader.expand.subroutineFields.map (shader.expand.loadStatement settings Indent.field)

@[simp] theorem length_plainStatements :
    (shader.plainStatements settings).length = shader.guardPlace := by
  rw [plainStatements, List.length_map, GeneralShader.length_plainFields, guardPlace]

variable {settings shader}

theorem groupStatements_of_no_groups (hGroups : shader.expand.groups = []) :
    shader.groupStatements settings = [] := by
  rw [groupStatements, GeneralShader.subroutineFields, hGroups]
  rfl

theorem loadLines_of_no_groups (hGroups : shader.expand.groups = []) :
    shader.loadLines settings = shader.plainStatements settings := by
  rw [loadLines, GeneralShader.loadLines, GeneralShader.guardedLines, hGroups]
  exact List.append_nil _

theorem loadLines_of_groups (hGroups : shader.expand.groups ≠ []) :
    shader.loadLines settings = shader.plainStatements settings ++
      (Indent.member ++ "if (" ++ settings.api.hasCapability ++ "( " ++
        settings.api.subroutineCapability ++ " )) \x7b") ::
        (shader.groupStatements settings ++ [Indent.member ++ "\x7d"]) := by
  have hNonempty : ¬ shader.expand.groups.isEmpty = true :=
    fun hEmpty => hGroups (List.isEmpty_iff.mp hEmpty)
  rw [loadLines, GeneralShader.loadLines, GeneralShader.guardedLines, if_neg hNonempty]
  rfl

theorem guardedStatements_eq (hGroups : shader.expand.groups ≠ []) :
    shader.guardedStatements settings = shader.groupStatements settings := by
  rw [guardedStatements, loadLines_of_groups hGroups, ← shader.length_plainStatements settings,
    List.drop_length_add_append, List.drop_one, List.tail_cons, List.dropLast_concat]

/-- Without the check the statements stand one behind the other. -/
theorem statementLines_eq : shader.statementLines settings =
    shader.plainStatements settings ++ shader.groupStatements settings := by
  by_cases hGroups : shader.expand.groups = []
  · rw [statementLines, if_pos hGroups, loadLines_of_no_groups hGroups,
      groupStatements_of_no_groups hGroups, List.append_nil]
  · rw [statementLines, if_neg hGroups, guardedStatements_eq hGroups, loadLines_of_groups hGroups,
      ← shader.length_plainStatements settings, List.take_left]

theorem length_statementLines_eq :
    (shader.statementLines settings).length = shader.fieldPaths.length := by
  simp only [statementLines_eq, plainStatements, groupStatements, fieldPaths,
    GeneralShader.fieldPaths, GeneralShader.fields, List.length_append, List.length_map]

theorem map_path_subroutineFields :
    shader.expand.subroutineFields.map Field.path = shader.groupPaths := by
  simp only [groupPaths, GeneralShader.subroutineFields, SubroutineGroup.fields, List.map_flatMap,
    List.map_cons, List.map_map]
  rfl

/-- A statement begins with its indentation, the place of its field and the sign of the assignment. -/
theorem loadStatement_eq (indent : String) (field : Field) :
    shader.expand.loadStatement settings indent field =
      indent ++ shader.target settings field.path ++ (shader.expand.call settings field ++ ";") := by
  simp only [GeneralShader.loadStatement, target, Layout.place, expand_name, String.append_assoc]

theorem statementLines_getElem? {index : Nat} {path : String}
    (hPath : shader.fieldPaths[index]? = some path) :
    ∃ rest, (shader.statementLines settings)[index]? =
      some ((if index < shader.guardPlace then Indent.member else Indent.field) ++
        shader.target settings path ++ rest) := by
  rw [fieldPaths, GeneralShader.fieldPaths, List.getElem?_map, Option.map_eq_some_iff] at hPath
  obtain ⟨field, hField, rfl⟩ := hPath
  refine ⟨shader.expand.call settings field ++ ";", ?_⟩
  rw [← loadStatement_eq, statementLines_eq]
  by_cases hPlain : index < shader.guardPlace
  · rw [GeneralShader.fields, List.getElem?_append_left (by simpa [guardPlace] using hPlain)] at hField
    rw [if_pos hPlain, List.getElem?_append_left (by simpa using hPlain), plainStatements,
      List.getElem?_map, hField]
    rfl
  · rw [Nat.not_lt] at hPlain
    rw [GeneralShader.fields, List.getElem?_append_right (by simpa [guardPlace] using hPlain)] at hField
    rw [if_neg (Nat.not_lt.mpr hPlain), List.getElem?_append_right (by simpa using hPlain),
      groupStatements, List.getElem?_map, length_plainStatements]
    rw [GeneralShader.length_plainFields] at hField
    rw [guardPlace, hField]
    rfl

end

theorem fragments_agree (settings : Settings) (shader : Shader) :
    shader.FragmentsAgree settings where
  length_loadLines := by
    have hLength : (shader.statementLines settings).length = shader.fieldPaths.length :=
      length_statementLines_eq
    rw [← hLength, statementLines_eq]
    by_cases hGroups : shader.expand.groups = []
    · rw [loadLines_of_no_groups hGroups, groupStatements_of_no_groups hGroups, if_pos hGroups,
        List.append_nil, Nat.add_zero]
    · rw [loadLines_of_groups hGroups, if_neg hGroups]
      simp only [List.length_append, List.length_cons, List.length_nil]
      omega
  check hGroups := by
    rw [loadLines_of_groups hGroups, ← shader.length_plainStatements settings,
      List.getElem?_append_right (Nat.le_refl _), Nat.sub_self]
    rfl
  closing hGroups := by
    rw [loadLines_of_groups hGroups, ← List.cons_append, ← List.append_assoc,
      List.getLast?_concat]
  guarded hGroups := by
    rw [guardedStatements_eq hGroups, ← map_path_subroutineFields, groupStatements,
      List.forall₂_map_left_iff, List.forall₂_map_right_iff]
    exact List.forall₂_same.mpr fun field _ => ⟨_, loadStatement_eq Indent.field field⟩
  length_statementLines := length_statementLines_eq
  statements _ _ := statementLines_getElem?
  declaration := by
    cases shader with
    | general shader => exact fun fields => settings.declaredFields?_general fields shader
    | simple shader => rfl

end Shader

end ShaderHandles
