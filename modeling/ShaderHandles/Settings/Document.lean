import ShaderHandles.Settings.Basic
import ShaderHandles.Json.Record

/-!
# Settings as a document

Settings are a JSON object with one section for each group of names. Every key may be missing and
keeps its default then, so a document is an override of the production configuration.

* `Settings.parse`: the settings of a document.
* `Settings.document`: the document of settings, with every key.
-/

namespace ShaderHandles

open Json (Key)

/-- The keys of the section on the graphics library. -/
def Api.keys : List (Key Api) :=
  [.text "handle_type" handleType fun api s => { api with handleType := s },
    .text "compile" compile fun api s => { api with compile := s },
    .text "get_attribute" getAttribute fun api s => { api with getAttribute := s },
    .text "get_uniform" getUniform fun api s => { api with getUniform := s },
    .text "has_capability" hasCapability fun api s => { api with hasCapability := s },
    .text "subroutine_capability" subroutineCapability
      fun api s => { api with subroutineCapability := s },
    .text "get_subroutine_uniform" getSubroutineUniform
      fun api s => { api with getSubroutineUniform := s },
    .text "get_subroutine_index" getSubroutineIndex
      fun api s => { api with getSubroutineIndex := s },
    .text "subroutine_stage" subroutineStage fun api s => { api with subroutineStage := s },
    .text "delete_program" deleteProgram fun api s => { api with deleteProgram := s }]

/-- The keys of the section on the container. -/
def Layout.keys : List (Key Layout) :=
  [.text "container_type" containerType fun layout s => { layout with containerType := s },
    .text "instance" container fun layout s => { layout with container := s },
    .text "simple_shader_type" simpleType fun layout s => { layout with simpleType := s },
    .text "load_fn" loadFunction fun layout s => { layout with loadFunction := s },
    .text "unload_fn" unloadFunction fun layout s => { layout with unloadFunction := s }]

/-- The keys of the section on files. -/
def Output.keys : List (Key Output) :=
  [.text "header_file" headerFile fun output s => { output with headerFile := s },
    .text "source_file" sourceFile fun output s => { output with sourceFile := s },
    .text "include_guard" includeGuard fun output s => { output with includeGuard := s },
    .text "graphics_header" graphicsHeader fun output s => { output with graphicsHeader := s },
    .texts "source_includes" sourceIncludes
      fun output names => { output with sourceIncludes := names }]

namespace Settings

def keys : List (Key Settings) :=
  [.text "provenance" provenance fun settings s => { settings with provenance := s },
    .ofRecord "api" "GraphicsApi" Api.keys {} api
      fun settings part => { settings with api := part },
    .ofRecord "layout" "ContainerLayout" Layout.keys {} layout
      fun settings part => { settings with layout := part },
    .ofRecord "output" "OutputSettings" Output.keys {} output
      fun settings part => { settings with output := part },
    .flag "validate" validate fun settings b => { settings with validate := b }]

def parse (source : String) : Except Json.Fault Settings :=
  Json.readAll (Json.readRecord "GeneratorSettings" keys {}) source

def document (settings : Settings) : String := (Json.writeRecord keys settings).text

end Settings

end ShaderHandles
