/-!
# Shaders

A shader is a program of the graphics library together with the names of the slots that its handles
come from. A general shader lists them; a simple shader has the shared shape of the small overlay
effects and gives its name and its fragment source only.

* `Shader.expand`: the general shader that a shader stands for.
* `Shader.expand_name`: expanding keeps the name.
* `Shader.described`: the entry of a registry that spells out the shared shape.
* `SimpleShader.describe_eq_expand`: declaring the shared shape step by step gives the shader that a
  simple one stands for.
-/

namespace ShaderHandles

/-- A subroutine uniform and the routine variants it may select, in declaration order. -/
structure SubroutineGroup where
  name : String
  variants : List String
  deriving DecidableEq, Inhabited

/-- A shader with explicit slots. Every list is kept in declaration order. -/
structure GeneralShader where
  name : String
  vertexPath : String
  fragmentPath : String
  attributes : List String := []
  uniforms : List String := []
  groups : List SubroutineGroup := []
  deriving DecidableEq, Inhabited

/-- A shader of the shared shape, which only brings a name and a fragment source. -/
structure SimpleShader where
  name : String
  fragmentPath : String
  deriving DecidableEq, Inhabited

/-- An entry of a registry. -/
inductive Shader where
  | general (shader : GeneralShader)
  | simple (shader : SimpleShader)
  deriving DecidableEq, Inhabited

namespace GeneralShader

/-- Appends attributes after those already declared. -/
def addAttributes (shader : GeneralShader) (names : List String) : GeneralShader :=
  { shader with attributes := shader.attributes ++ names }

/-- Appends uniforms after those already declared. -/
def addUniforms (shader : GeneralShader) (names : List String) : GeneralShader :=
  { shader with uniforms := shader.uniforms ++ names }

/-- Appends a subroutine group after those already declared. -/
def addGroup (shader : GeneralShader) (name : String) (variants : List String) : GeneralShader :=
  { shader with groups := shader.groups ++ [⟨name, variants⟩] }

end GeneralShader

/-! ## The shared shape -/

namespace SimpleShader

/-- The vertex source of every simple shader. -/
def vertexPath : String := "project_pos.vert"

def attributes : List String := ["vertex"]

def uniforms : List String :=
  ["projection", "color", "dimensions", "dt", "paramf", "parami", "paramv"]

/-- The members of the struct type that simple shaders share, in declaration order. -/
def sharedMembers : List String := "program" :: attributes ++ uniforms

/-- The general shader with the shared shape filled in. -/
def expand (shader : SimpleShader) : GeneralShader where
  name := shader.name
  vertexPath := vertexPath
  fragmentPath := shader.fragmentPath
  attributes := attributes
  uniforms := uniforms

/-- The description of a general shader to which the slots of the shared shape are added. -/
def describe (shader : SimpleShader) : GeneralShader :=
  let base : GeneralShader :=
    { name := shader.name, vertexPath := vertexPath, fragmentPath := shader.fragmentPath }
  (base.addAttributes attributes).addUniforms uniforms

theorem describe_eq_expand (shader : SimpleShader) : shader.describe = shader.expand := rfl

end SimpleShader

namespace Shader

/-- The name, which becomes a member of the container. -/
def name : Shader → String
  | general shader => shader.name
  | simple shader => shader.name

/-- Whether the shader has the shared shape. -/
def isSimple : Shader → Bool
  | general _ => false
  | simple _ => true

/-- The general shader that the entry stands for. -/
def expand : Shader → GeneralShader
  | general shader => shader
  | simple shader => shader.expand

/-- The entry with a description in place of the shared shape. -/
def described : Shader → Shader
  | general shader => general shader
  | simple shader => general shader.describe

@[simp] theorem expand_general (shader : GeneralShader) : (general shader).expand = shader := rfl

@[simp] theorem expand_simple (shader : SimpleShader) : (simple shader).expand = shader.expand :=
  rfl

@[simp] theorem expand_name (shader : Shader) : shader.expand.name = shader.name := by
  cases shader <;> rfl

@[simp] theorem described_name (shader : Shader) : shader.described.name = shader.name := by
  cases shader <;> rfl

/-- A description stands for the same general shader as the entry. -/
@[simp] theorem expand_described (shader : Shader) : shader.described.expand = shader.expand := by
  cases shader with
  | general shader => rfl
  | simple shader => exact shader.describe_eq_expand

end Shader

end ShaderHandles
