import ShaderHandles.Shader.Basic

/-!
# Registries

A registry is a list of shaders in a fixed order. The order decides the layout of the generated
texts and which of two shaders of one name a look-up finds: the first.

* `Registry.get?`: the look-up by name.
* `Registry.toList_push`, `Registry.toList_append`, `Registry.toList_ofList` and
  `Registry.toList_rotate`: each operation as seen through the list of shaders.
-/

namespace ShaderHandles

/-- A list of shaders in the order of their declaration. -/
structure Registry where
  shaders : List Shader
  deriving DecidableEq, Inhabited

namespace Registry

/-- The registry without shaders. -/
def empty : Registry := ⟨[]⟩

def toList (registry : Registry) : List Shader := registry.shaders

def ofList (shaders : List Shader) : Registry := ⟨shaders⟩

/-- Adds a shader at the end. -/
def push (registry : Registry) (shader : Shader) : Registry :=
  ⟨registry.shaders ++ [shader]⟩

def append (registry : Registry) (shaders : List Shader) : Registry :=
  ⟨registry.shaders ++ shaders⟩

def size (registry : Registry) : Nat := registry.shaders.length

def isEmpty (registry : Registry) : Bool := registry.shaders.isEmpty

/-- The first shader of a name. -/
def get? (registry : Registry) (name : String) : Option Shader :=
  registry.shaders.find? fun shader => shader.name == name

/-- The names in order, repeated ones included. -/
def names (registry : Registry) : List String := registry.shaders.map Shader.name

/-- The registry with its first shader moved to the end. -/
def rotate (registry : Registry) : Registry := ofList (registry.toList.rotateLeft 1)

/-- The registry with every simple shader replaced by its description. -/
def expand (registry : Registry) : Registry :=
  ofList (registry.toList.map Shader.described)

/-! ## The operations through the list -/

@[simp] theorem toList_empty : empty.toList = [] := rfl

@[simp] theorem toList_ofList (shaders : List Shader) : (ofList shaders).toList = shaders := rfl

@[simp] theorem ofList_toList (registry : Registry) : ofList registry.toList = registry := rfl

@[simp] theorem toList_push (registry : Registry) (shader : Shader) :
    (registry.push shader).toList = registry.toList ++ [shader] := rfl

@[simp] theorem toList_append (registry : Registry) (shaders : List Shader) :
    (registry.append shaders).toList = registry.toList ++ shaders := rfl

@[simp] theorem toList_rotate (registry : Registry) :
    registry.rotate.toList = registry.toList.rotateLeft 1 := rfl

@[simp] theorem toList_expand (registry : Registry) :
    registry.expand.toList = registry.toList.map Shader.described := rfl

theorem names_eq (registry : Registry) : registry.names = registry.toList.map Shader.name := rfl

end Registry

end ShaderHandles
