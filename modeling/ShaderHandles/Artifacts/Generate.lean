import ShaderHandles.Artifacts.Basic
import ShaderHandles.Failure
import ShaderHandles.Log
import ShaderHandles.Registry.Check
import ShaderHandles.Shader.Load

/-!
# Generating the artifacts

The lines of all shaders are put into the two templates, in the order of the registry. A registry is
checked first when the settings ask for it.

* `Registry.validate`: the check, which logs every issue.
* `Settings.interface`, `Settings.implementation`: one artifact, never checked.
* `Settings.generate`: both artifacts.
-/

namespace ShaderHandles

/-- A computation that logs and may fail. -/
abbrev Attempt := ExceptT Failure Logged

def Attempt.send (entry : Entry) : Attempt Unit := ExceptT.lift (Logged.send entry)

def Attempt.sendAll (entries : List Entry) : Attempt Unit := ExceptT.lift (Logged.sendAll entries)

/-! ## The check -/

def Issue.entry (issue : Issue) : Entry where
  level := .warn
  origin := "shader_bindgen::registry"
  message := "Shader registry: " ++ issue.message

/-- The check of a registry. Every issue is logged, and all are part of the failure. -/
def Registry.validate (registry : Registry) : Attempt Unit := do
  unless registry.issues.isEmpty do
    Attempt.sendAll (registry.issues.map Issue.entry)
    throw (.rejected registry.issues)

/-! ## Values for the templates -/

def Template.Value.texts (items : List String) : Template.Value := .list (items.map .text)

namespace Settings

/-- The values that the template of the header asks for. -/
def interfaceScope (settings : Settings) (registry : Registry) : Template.Scope where
  values := [
    ("provenance", .text settings.provenance),
    ("include_guard", .text settings.output.includeGuard),
    ("graphics_header", .text settings.output.graphicsHeader),
    ("handle_type", .text settings.api.handleType),
    ("simple_shader_type", .text settings.layout.simpleType),
    ("simple_fields", .texts SimpleShader.sharedMembers),
    ("container_type", .text settings.layout.containerType),
    ("members", .texts (registry.toList.flatMap (Shader.declaration settings))),
    ("instance", .text settings.layout.container),
    ("load_fn", .text settings.layout.loadFunction),
    ("unload_fn", .text settings.layout.unloadFunction)]

/-- The values that the template of the source file asks for. -/
def implementationScope (settings : Settings) (registry : Registry) : Template.Scope where
  values := [
    ("provenance", .text settings.provenance),
    ("header_file", .text settings.output.headerFile),
    ("source_includes", .texts settings.output.sourceIncludes),
    ("container_type", .text settings.layout.containerType),
    ("instance", .text settings.layout.container),
    ("load_fn", .text settings.layout.loadFunction),
    ("unload_fn", .text settings.layout.unloadFunction),
    ("bindings", .list (registry.toList.map fun shader => .texts (shader.loadLines settings))),
    ("releases", .texts (registry.toList.map (Shader.releaseLine settings)))]

/-! ## Entries of the log -/

/-- The part of the program that the entries about generation come from. -/
def generateOrigin : String := "shader_bindgen::generator::binding_gen"

def declaringEntry (shader : Shader) : Entry where
  level := .debug
  origin := generateOrigin
  message := "Declaring shader '" ++ shader.name ++ "'"

/-- The entry for a shader whose load statements are written. -/
def bindingEntry (settings : Settings) (shader : Shader) : Entry where
  level := .debug
  origin := generateOrigin
  message := "Binding shader '" ++ shader.name ++ "' (" ++
    toString (shader.loadLines settings).length ++ " statements)"

/-- The entry for the finished pair. -/
def generatedEntry (registry : Registry) (artifacts : Artifacts) : Entry where
  level := .info
  origin := generateOrigin
  message := "Generated shader bindings for " ++ toString registry.size ++ " shaders (" ++
    toString artifacts.interface.utf8ByteSize ++ " + " ++
    toString artifacts.implementation.utf8ByteSize ++ " bytes, fingerprint " ++
    artifacts.fingerprint ++ ")"

/-! ## Generation -/

def layOut (name : String) (scope : Template.Scope) : Attempt String :=
  match (Template.get name).bind fun template => template.render scope with
  | .ok text => pure text
  | .error fault => throw (.template fault)

def interface (settings : Settings) (registry : Registry) : Attempt String := do
  Attempt.sendAll (registry.toList.map declaringEntry)
  layOut Template.interfaceName (settings.interfaceScope registry)

/-- The generated source file. -/
def implementation (settings : Settings) (registry : Registry) : Attempt String := do
  Attempt.sendAll (registry.toList.map settings.bindingEntry)
  layOut Template.implementationName (settings.implementationScope registry)

/-- Both artifacts, after a check if the settings ask for one. -/
def generate (settings : Settings) (registry : Registry) : Attempt Artifacts := do
  if settings.validate then
    registry.validate
  let interface ← settings.interface registry
  let implementation ← settings.implementation registry
  let artifacts : Artifacts := { interface, implementation }
  Attempt.send (generatedEntry registry artifacts)
  return artifacts

end Settings

end ShaderHandles
