import ShaderHandles.Shader.Declaration
import ShaderHandles.C.Literal

/-!
# Loading and releasing

The statements of the generated routines that concern one shader: the load routine resolves every
field of the shader by name, and the unload routine releases its program. The fields of subroutine
groups are resolved under one check of the capability, which is left out together with its block
when a shader has no group.

* `GeneralShader.loadStatement`: the statement that resolves one field.
* `Shader.loadLines`: the lines of the load routine, in the order of the fields.
* `Shader.releaseLine`: the line of the unload routine.
-/

namespace ShaderHandles

/-- The C expression for the field of a shader at a path. -/
def Layout.place (layout : Layout) (shader path : String) : String :=
  layout.container ++ "." ++ shader ++ "." ++ path

/-- The C expression for the handle of a shader's program. -/
def Layout.programOf (layout : Layout) (shader : String) : String :=
  layout.place shader Field.programMember

namespace GeneralShader

/-- The call of the graphics library that resolves a field. -/
def call (settings : Settings) (shader : GeneralShader) : Field → String
  | .program =>
    settings.api.compile ++ "(" ++ C.quote shader.vertexPath ++ ", " ++
      C.quote shader.fragmentPath ++ ")"
  | .vertexAttribute name => lookup settings.api.getAttribute name
  | .uniform name => lookup settings.api.getUniform name
  | .selector group => stageLookup settings.api.getSubroutineUniform group
  | .variant _ name => stageLookup settings.api.getSubroutineIndex name
where
  /-- A look-up by name in the shader's program. -/
  lookup (function name : String) : String :=
    function ++ "(" ++ settings.layout.programOf shader.name ++ ", " ++ C.quote name ++ ")"
  /-- A look-up by stage and name in the shader's program. -/
  stageLookup (function name : String) : String :=
    function ++ "( " ++ settings.layout.programOf shader.name ++ ", " ++
      settings.api.subroutineStage ++ ", " ++ C.quote name ++ " )"

/-- The statement that resolves a field, after its indentation. -/
def loadStatement (settings : Settings) (shader : GeneralShader) (indent : String)
    (field : Field) : String :=
  indent ++ settings.layout.place shader.name field.path ++ " = " ++
    shader.call settings field ++ ";"

/-- The statements that resolve the fields of the groups, under the check of the capability. -/
def guardedLines (settings : Settings) (shader : GeneralShader) : List String :=
  if shader.groups.isEmpty then
    []
  else
    (Indent.member ++ "if (" ++ settings.api.hasCapability ++ "( " ++
        settings.api.subroutineCapability ++ " )) \x7b") ::
      shader.subroutineFields.map (shader.loadStatement settings Indent.field) ++
      [Indent.member ++ "\x7d"]

/-- The lines of the load routine for a shader. -/
def loadLines (settings : Settings) (shader : GeneralShader) : List String :=
  shader.plainFields.map (shader.loadStatement settings Indent.member) ++
    shader.guardedLines settings

end GeneralShader

namespace Shader

/-- The lines of the load routine; those of a simple shader are its expansion's. -/
def loadLines (settings : Settings) (shader : Shader) : List String :=
  shader.expand.loadLines settings

/-- The line of the unload routine. -/
def releaseLine (settings : Settings) (shader : Shader) : String :=
  Indent.member ++ settings.api.deleteProgram ++ "(" ++
    settings.layout.programOf shader.name ++ ");"

end Shader

end ShaderHandles
