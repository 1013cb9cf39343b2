import ShaderHandles.Shader.Basic

/-!
# Handle fields

Every handle of a shader is stored in a field of the shader's struct. The fields are walked in one
order everywhere: the program, the attributes, the uniforms, and then each subroutine group as its
selector followed by its variants.

* `GeneralShader.fields`: that order, as `plainFields` followed by `subroutineFields`.
* `Field.path`: the dotted path of a field below the shader's member.
* `GeneralShader.length_plainFields`, `SubroutineGroup.length_fields`: the numbers of fields.
-/

namespace ShaderHandles

/-- A handle field of a shader's struct. -/
inductive Field where
  | program
  | vertexAttribute (name : String)
  | uniform (name : String)
  | selector (group : String)
  | variant (group name : String)
  deriving DecidableEq

namespace Field

/-- The member that holds the compiled program. -/
def programMember : String := "program"

/-- The member of a group's struct that holds the handle of the subroutine uniform. -/
def selectorMember : String := "uniform"

def groupPath (group member : String) : String := group ++ "." ++ member

/-- The path below the shader's member of the container. -/
def path : Field → String
  | program => programMember
  | vertexAttribute name => name
  | uniform name => name
  | selector group => groupPath group selectorMember
  | variant group name => groupPath group name

end Field

/-- The fields of a group's struct: the selector first. -/
def SubroutineGroup.fields (group : SubroutineGroup) : List Field :=
  .selector group.name :: group.variants.map (.variant group.name)

namespace GeneralShader

/-- The fields that stand in the shader's struct itself. -/
def plainFields (shader : GeneralShader) : List Field :=
  .program :: shader.attributes.map .vertexAttribute ++ shader.uniforms.map .uniform

/-- The fields that stand in the structs of the subroutine groups. -/
def subroutineFields (shader : GeneralShader) : List Field :=
  shader.groups.flatMap SubroutineGroup.fields

/-- All fields, in declaration order. -/
def fields (shader : GeneralShader) : List Field :=
  shader.plainFields ++ shader.subroutineFields

/-- The dotted paths of all fields, in declaration order. -/
def fieldPaths (shader : GeneralShader) : List String :=
  shader.fields.map Field.path

end GeneralShader

/-- The dotted paths of a shader's fields; a simple shader has those of its expansion. -/
def Shader.fieldPaths (shader : Shader) : List String :=
  shader.expand.fieldPaths

/-! ## Numbers of fields -/

@[simp] theorem SubroutineGroup.length_fields (group : SubroutineGroup) :
    group.fields.length = 1 + group.variants.length := by
  simp [SubroutineGroup.fields, Nat.add_comm]

@[simp] theorem GeneralShader.length_plainFields (shader : GeneralShader) :
    shader.plainFields.length = 1 + shader.attributes.length + shader.uniforms.length := by
  simp [GeneralShader.plainFields]
  omega

end ShaderHandles
