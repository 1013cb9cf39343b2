import ShaderHandles.Text.Quoted

/-!
# Issues

What can be wrong with a registry. An issue does not stop the generation on its own; without a check
it leads to C that does not compile or that drops a field.

* `Issue.message`: the wording.
-/

namespace ShaderHandles

/-- A single problem of a registry. -/
inductive Issue where
  /-- There is no shader, so the container would have no member. -/
  | emptyRegistry
  /-- A shader has the name of an earlier one. -/
  | duplicateShader (name : String)
  /-- A name of a shader that must become a C identifier is none. -/
  | invalidIdentifier (shader name : String)
  /-- A field of a shader has the path of an earlier one. -/
  | fieldCollision (shader field : String)
  /-- A source path of a shader cannot be written as a C string literal. -/
  | invalidSourcePath (shader path : String)
  deriving DecidableEq

/-- The sentence that reports an issue. -/
def Issue.message : Issue → String
  | emptyRegistry => "registry is empty"
  | duplicateShader name => "duplicate shader name '" ++ name ++ "'"
  | invalidIdentifier shader name =>
    "'" ++ name ++ "' in shader '" ++ shader ++ "' is not a valid C identifier"
  | fieldCollision shader field =>
    "field '" ++ field ++ "' is declared more than once in shader '" ++ shader ++ "'"
  | invalidSourcePath shader path =>
    "source path " ++ Text.quoted path ++ " of shader '" ++ shader ++
      "' cannot be emitted as a C string literal"

end ShaderHandles
