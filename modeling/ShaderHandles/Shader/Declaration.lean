import ShaderHandles.Shader.Field
import ShaderHandles.Settings.Basic

/-!
# Declarations

The lines that declare a shader's member of the container struct. A general shader declares a
struct of its own, in which every subroutine group is a nested struct; a simple shader declares one
member of the shared type.

* `Shader.declaration`: those lines, without line ends.
-/

namespace ShaderHandles

namespace Indent

/-- The indentation of a member of the container and of a statement. -/
def member : String := "   "

/-- The indentation of a field of a shader's struct and of a guarded statement. -/
def field : String := "      "

/-- The indentation of a field of a group's struct. -/
def nested : String := "         "

end Indent

def Api.handleDeclaration (api : Api) (indent name : String) : String :=
  indent ++ api.handleType ++ " " ++ name ++ ";"

/-- The struct of a subroutine group: its selector, then its variants. -/
def SubroutineGroup.declaration (api : Api) (group : SubroutineGroup) : List String :=
  (Indent.field ++ "struct \x7b") ::
    api.handleDeclaration Indent.nested Field.selectorMember ::
      group.variants.map (api.handleDeclaration Indent.nested) ++
    [Indent.field ++ "\x7d " ++ group.name ++ ";"]

def GeneralShader.declaration (api : Api) (shader : GeneralShader) : List String :=
  (Indent.member ++ "struct \x7b") ::
    api.handleDeclaration Indent.field Field.programMember ::
      (shader.attributes ++ shader.uniforms).map (api.handleDeclaration Indent.field) ++
    shader.groups.flatMap (SubroutineGroup.declaration api) ++
    [Indent.member ++ "\x7d " ++ shader.name ++ ";"]

/-- The lines that declare a shader's member of the container. -/
def Shader.declaration (settings : Settings) : Shader → List String
  | general shader => shader.declaration settings.api
  | simple shader => [Indent.member ++ settings.layout.simpleType ++ " " ++ shader.name ++ ";"]

end ShaderHandles
