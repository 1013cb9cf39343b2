import ShaderHandles.Registry.Basic
import ShaderHandles.Json.Record

/-!
# Registries as documents

A registry is a JSON list with an object for each shader. The key `kind` says whether the shader is
general or simple; the other keys are its fields. A shader may also be a list that begins with the
kind. The parts of a shader are read first and decoded when the kind is known.

* `Registry.parse`: the registry of a document.
* `Registry.document`: the document of a registry, with every key.
-/

namespace ShaderHandles

open Json (Cause Left Slot Stop Value)

/-! ## Fields -/

def SubroutineGroup.slots : List (Slot SubroutineGroup) :=
  [.text "name" name fun group s => { group with name := s },
    .texts "variants" true variants fun group names => { group with variants := names }]

def SubroutineGroup.decode (value : Value) : Except Cause SubroutineGroup :=
  Json.decodeRecord "SubroutineGroup" slots ⟨"", []⟩ value

def SubroutineGroup.value (group : SubroutineGroup) : Value :=
  .object (Json.slotMembers slots group)

/-- The fields of a general shader. Its lists may be missing. -/
def GeneralShader.slots : List (Slot GeneralShader) :=
  [.text "name" name fun shader s => { shader with name := s },
    .text "vertex_source_path" vertexPath fun shader s => { shader with vertexPath := s },
    .text "fragment_source_path" fragmentPath fun shader s => { shader with fragmentPath := s },
    .texts "attributes" false attributes fun shader names => { shader with attributes := names },
    .texts "uniforms" false uniforms fun shader names => { shader with uniforms := names },
    .ofDecoder "subroutines" false (Json.decodeList SubroutineGroup.decode)
      (fun groups => .list (groups.map SubroutineGroup.value)) groups
      fun shader groups => { shader with groups := groups }]

def GeneralShader.decode (value : Value) : Except Cause GeneralShader :=
  Json.decodeRecord "ShaderDescription" slots ⟨"", "", "", [], [], []⟩ value

def SimpleShader.slots : List (Slot SimpleShader) :=
  [.text "name" name fun shader s => { shader with name := s },
    .text "fragment_source_path" fragmentPath fun shader s => { shader with fragmentPath := s }]

def SimpleShader.decode (value : Value) : Except Cause SimpleShader :=
  Json.decodeRecord "SimpleShaderDescription" slots ⟨"", ""⟩ value

/-! ## Kinds -/

namespace Shader

/-- What the key `kind` can say. -/
inductive Kind where
  | general
  | simple
  deriving DecidableEq

namespace Kind

def word : Kind → String
  | general => "general"
  | simple => "simple"

def all : List Kind := [general, simple]

def ofWord? (word : String) : Option Kind := all.find? fun kind => kind.word == word

/-- The kind that the text goes on with. -/
def read (text : List Char) : Except Stop (Left Kind) := do
  let (word, rest) ← Json.readStringAs .variant text
  match ofWord? word with
  | some kind => return (kind, rest)
  | none => Json.stopAt (.unknownVariant word (all.map Kind.word)) rest

end Kind

def decode (kind : Kind) (value : Value) : Except Cause Shader :=
  match kind with
  | .general => general <$> GeneralShader.decode value
  | .simple => simple <$> SimpleShader.decode value

def value : Shader → Value
  | general shader =>
    .object (("kind", .string Kind.general.word) :: Json.slotMembers GeneralShader.slots shader)
  | simple shader =>
    .object (("kind", .string Kind.simple.word) :: Json.slotMembers SimpleShader.slots shader)

/-! ## Reading -/

/-- The lists and objects that may stand inside of each other in a part of a shader. -/
def partDepth : Nat := 125

/-- The members of a shader's object up to its closing brace: its kind and its other members. -/
def readMembers : (budget : Nat) → (isFirst : Bool) → Option Kind → List Char →
    Except Stop (Left (Kind × List (String × Value)))
  | 0, _, _, text => Json.stopAfterByte .endInObject text
  | budget + 1, isFirst, kind?, text => do
    match ← Json.nextKey isFirst text, kind? with
    | .ending rest, some kind => return ((kind, []), rest)
    | .ending rest, none => .error (.pending (.missingField "kind") rest)
    | .item rest, kind? =>
      let (key, rest) ← Json.readString rest
      if key = "kind" then
        if kind?.isSome then
          .error (.pending (.duplicateField "kind") rest)
        else
          let rest ← Json.readColon rest
          let (kind, rest) ← Kind.read rest
          readMembers budget false (some kind) rest
      else
        let rest ← Json.readColon rest
        let (value, rest) ← Json.readValue partDepth rest
        let ((kind, members), rest) ← readMembers budget false kind? rest
        return ((kind, (key, value) :: members), rest)

/-- The elements of a shader's list up to its closing bracket: its kind and the others. -/
def readElements (text : List Char) : Except Stop (Left (Kind × List Value)) := do
  match ← Json.nextElement true text with
  | .ending rest => .error (.pending (.missingField "kind") rest)
  | .item rest =>
    let (kind, rest) ← Kind.read rest
    let (elements, rest) ←
      Json.readElements (Json.readValue partDepth) (rest.length + 1) false rest
    return ((kind, elements), rest)

/-- The parts of a shader: its kind and the value that holds its fields. -/
def readParts (text : List Char) : Except Stop (Left (Kind × Value)) :=
  match Json.skipBlanks text with
  | '[' :: rest => do
    let ((kind, elements), rest) ← Json.inBrackets readElements rest
    return ((kind, .list elements), rest)
  | '\x7b' :: rest => do
    let ((kind, members), rest) ←
      Json.inBraces (readMembers (rest.length + 1) true none) rest
    return ((kind, .object members), rest)
  | text => Json.wrongKind (.tagged "ShaderSpec") text

/-- A shader. What is wrong with its fields is reported by the list around it. -/
def read (text : List Char) : Except Stop (Left Shader) := do
  let ((kind, value), rest) ← readParts text
  match decode kind value with
  | .ok shader => return (shader, rest)
  | .error cause => .error (.pending cause rest)

end Shader

/-! ## Registries -/

namespace Registry

def parse (source : String) : Except Json.Fault Registry :=
  ofList <$> Json.readAll (Json.readList Shader.read) source

def document (registry : Registry) : String :=
  (Value.list (registry.toList.map Shader.value)).text

end Registry

def Shader.document (shader : Shader) : String := shader.value.text

def SubroutineGroup.document (group : SubroutineGroup) : String := group.value.text

end ShaderHandles
