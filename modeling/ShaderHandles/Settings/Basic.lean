/-!
# Settings

Every name that ends up in the generated C, grouped by what it controls. The default value of each
field is the one that the production pair uses, so `{}` is the production configuration.

* `Api`: the handle type and the calls of the graphics library.
* `Layout`: the container struct, its instance and its entry points.
* `Output`: file names, include guard and includes.
-/

namespace ShaderHandles

/-- The names of the graphics library that the generated code uses. It only emits the calls. -/
structure Api where
  /-- The C type of every handle field. -/
  handleType : String := "GLuint"
  /-- Compiles a program from its vertex and fragment sources. -/
  compile : String := "gl_program_vert_frag"
  /-- Looks up an attribute of a program by name. -/
  getAttribute : String := "glGetAttribLocation"
  /-- Looks up a uniform of a program by name. -/
  getUniform : String := "glGetUniformLocation"
  /-- Tests a capability flag. -/
  hasCapability : String := "gl_has"
  /-- The flag that guards the resolution of subroutines. -/
  subroutineCapability : String := "OPENGL_SUBROUTINES"
  /-- Looks up a subroutine uniform of a program by stage and name. -/
  getSubroutineUniform : String := "glGetSubroutineUniformLocation"
  /-- Looks up a routine variant of a program by stage and name. -/
  getSubroutineIndex : String := "glGetSubroutineIndex"
  /-- The stage that subroutines live in. -/
  subroutineStage : String := "GL_FRAGMENT_SHADER"
  /-- Releases a program. -/
  deleteProgram : String := "glDeleteProgram"
  deriving DecidableEq, Inhabited

/-- The names of the container and of its entry points. -/
structure Layout where
  containerType : String := "Shaders"
  /-- The global variable of the container type. -/
  container : String := "shaders"
  /-- The struct type that simple shaders share. -/
  simpleType : String := "SimpleShader"
  loadFunction : String := "shaders_load"
  unloadFunction : String := "shaders_unload"
  deriving DecidableEq, Inhabited

/-- File names and includes. -/
structure Output where
  headerFile : String := "shaders.gen.h"
  sourceFile : String := "shaders.gen.c"
  includeGuard : String := "SHADERS_GEN_H"
  /-- The header with the handle type, included by the generated header. -/
  graphicsHeader : String := "glad.h"
  /-- Further headers that the generated source includes, after the generated header. -/
  sourceIncludes : List String := ["opengl_shader.h"]
  deriving DecidableEq, Inhabited

/-- The whole configuration of the generator. -/
structure Settings where
  /-- The name of the generator on the first line of both artifacts. -/
  provenance : String := "shader-bindgen"
  api : Api := {}
  layout : Layout := {}
  output : Output := {}
  /-- Whether a registry is checked before anything is generated from it. -/
  validate : Bool := false
  deriving DecidableEq, Inhabited

end ShaderHandles
