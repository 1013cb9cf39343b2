import ShaderHandles.Settings.Document
import ShaderHandles.Proofs.Json.Compact
import ShaderHandles.Proofs.Json.Override

/-!
# Documents of settings are overrides

A document of settings is an object that gives some of the fields, and a section in it gives some of
its own. A field that is left out keeps its default, also where the section around it is given.

* `Settings.override`: the settings with the fields that the members of an object give.
* `Api.merges`, `Layout.merges`, `Output.merges`, `Settings.merges`: every key sets its own field.
* `Settings.parse_override`: the settings that a document is read as, in every layout of it.
-/

namespace ShaderHandles

open Json

/-! ## Sections -/

namespace Api

/-- The fields of the section on the graphics library, and the values that they may have. -/
def fields : List (String × (Value → Prop)) :=
  ["handle_type", "compile", "get_attribute", "get_uniform", "has_capability",
    "subroutine_capability", "get_subroutine_uniform", "get_subroutine_index", "subroutine_stage",
    "delete_program"].map (·, Value.IsText)

/-- The section with the fields that the members of an object give. -/
def override (api : Api) (members : List (String × Value)) : Api where
  handleType := fieldOr Value.asText? members "handle_type" api.handleType
  compile := fieldOr Value.asText? members "compile" api.compile
  getAttribute := fieldOr Value.asText? members "get_attribute" api.getAttribute
  getUniform := fieldOr Value.asText? members "get_uniform" api.getUniform
  hasCapability := fieldOr Value.asText? members "has_capability" api.hasCapability
  subroutineCapability :=
    fieldOr Value.asText? members "subroutine_capability" api.subroutineCapability
  getSubroutineUniform :=
    fieldOr Value.asText? members "get_subroutine_uniform" api.getSubroutineUniform
  getSubroutineIndex := fieldOr Value.asText? members "get_subroutine_index" api.getSubroutineIndex
  subroutineStage := fieldOr Value.asText? members "subroutine_stage" api.subroutineStage
  deleteProgram := fieldOr Value.asText? members "delete_program" api.deleteProgram

theorem merges : Merges Key.name Key.Takes fields keys override where
  distinct := by decide
  nil _ := rfl
  other key value members api hKey := by
    simp only [fields, List.map_cons, List.map_nil, List.mem_cons, List.not_mem_nil, or_false,
      not_or] at hKey
    simp [override, hKey]
  parts := by
    iterate 10
      refine .cons ⟨rfl, ?_⟩ ?_
      · rintro _ members api ⟨s, rfl⟩ hAbsent
        refine ⟨_, Key.takes_text s api, ?_⟩
        simp [override, fieldOr_of_absent hAbsent]
    exact .nil

end Api

namespace Layout

/-- The fields of the section on the container, and the values that they may have. -/
def fields : List (String × (Value → Prop)) :=
  ["container_type", "instance", "simple_shader_type", "load_fn", "unload_fn"].map
    (·, Value.IsText)

/-- The section with the fields that the members of an object give. -/
def override (layout : Layout) (members : List (String × Value)) : Layout where
  containerType := fieldOr Value.asText? members "container_type" layout.containerType
  container := fieldOr Value.asText? members "instance" layout.container
  simpleType := fieldOr Value.asText? members "simple_shader_type" layout.simpleType
  loadFunction := fieldOr Value.asText? members "load_fn" layout.loadFunction
  unloadFunction := fieldOr Value.asText? members "unload_fn" layout.unloadFunction

theorem merges : Merges Key.name Key.Takes fields keys override where
  distinct := by decide
  nil _ := rfl
  other key value members layout hKey := by
    simp only [fields, List.map_cons, List.map_nil, List.mem_cons, List.not_mem_nil, or_false,
      not_or] at hKey
    simp [override, hKey]
  parts := by
    iterate 5
      refine .cons ⟨rfl, ?_⟩ ?_
      · rintro _ members layout ⟨s, rfl⟩ hAbsent
        refine ⟨_, Key.takes_text s layout, ?_⟩
        simp [override, fieldOr_of_absent hAbsent]
    exact .nil

end Layout

namespace Output

/-- The fields of the section on files, and the values that they may have. -/
def fields : List (String × (Value → Prop)) :=
  [("header_file", Value.IsText), ("source_file", Value.IsText), ("include_guard", Value.IsText),
    ("graphics_header", Value.IsText), ("source_includes", Value.IsTexts)]

/-- The section with the fields that the members of an object give. -/
def override (output : Output) (members : List (String × Value)) : Output where
  headerFile := fieldOr Value.asText? members "header_file" output.headerFile
  sourceFile := fieldOr Value.asText? members "source_file" output.sourceFile
  includeGuard := fieldOr Value.asText? members "include_guard" output.includeGuard
  graphicsHeader := fieldOr Value.asText? members "graphics_header" output.graphicsHeader
  sourceIncludes := fieldOr Value.asTexts? members "source_includes" output.sourceIncludes

theorem merges : Merges Key.name Key.Takes fields keys override where
  distinct := by decide
  nil _ := rfl
  other key value members output hKey := by
    simp only [fields, List.map_cons, List.map_nil, List.mem_cons, List.not_mem_nil, or_false,
      not_or] at hKey
    simp [override, hKey]
  parts := by
    iterate 4
      refine .cons ⟨rfl, ?_⟩ ?_
      · rintro _ members output ⟨s, rfl⟩ hAbsent
        refine ⟨_, Key.takes_text s output, ?_⟩
        simp [override, fieldOr_of_absent hAbsent]
    refine .cons ⟨rfl, ?_⟩ .nil
    rintro _ members output ⟨names, rfl⟩ hAbsent
    refine ⟨_, Key.takes_texts names output, ?_⟩
    simp [override, fieldOr_of_absent hAbsent]

end Output

/-! ## Settings -/

namespace Settings

/-- The keys of a document of settings, and the values that they may have. A section is an object
that may leave out fields as well. -/
def fields : List (String × (Value → Prop)) :=
  [("provenance", Value.IsText), ("api", Value.IsObject (IsPartial Api.fields)),
    ("layout", Value.IsObject (IsPartial Layout.fields)),
    ("output", Value.IsObject (IsPartial Output.fields)), ("validate", Value.IsFlag)]

/-- The settings with the fields that the members of an object give. A section that is given has the
default in every field that it leaves out. -/
def override (settings : Settings) (members : List (String × Value)) : Settings where
  provenance := fieldOr Value.asText? members "provenance" settings.provenance
  api := fieldOr (Value.asObject? ({} : Api).override) members "api" settings.api
  layout := fieldOr (Value.asObject? ({} : Layout).override) members "layout" settings.layout
  output := fieldOr (Value.asObject? ({} : Output).override) members "output" settings.output
  validate := fieldOr Value.asFlag? members "validate" settings.validate

theorem merges : Merges Key.name Key.Takes fields keys override where
  distinct := by decide
  nil _ := rfl
  other key value members settings hKey := by
    simp only [fields, List.map_cons, List.map_nil, List.mem_cons, List.not_mem_nil, or_false,
      not_or] at hKey
    simp [override, hKey]
  parts := by
    refine .cons ⟨rfl, ?provenance⟩ (.cons ⟨rfl, ?api⟩ (.cons ⟨rfl, ?layout⟩
      (.cons ⟨rfl, ?output⟩ (.cons ⟨rfl, ?validate⟩ .nil))))
    case provenance =>
      rintro _ members settings ⟨s, rfl⟩ hAbsent
      refine ⟨_, Key.takes_text s settings, ?_⟩
      simp [override, fieldOr_of_absent hAbsent]
    case api =>
      rintro _ members settings ⟨section_, rfl, hSection⟩ hAbsent
      refine ⟨_, Key.takes_ofRecord Api.merges hSection settings, ?_⟩
      simp [override, fieldOr_of_absent hAbsent]
    case layout =>
      rintro _ members settings ⟨section_, rfl, hSection⟩ hAbsent
      refine ⟨_, Key.takes_ofRecord Layout.merges hSection settings, ?_⟩
      simp [override, fieldOr_of_absent hAbsent]
    case output =>
      rintro _ members settings ⟨section_, rfl, hSection⟩ hAbsent
      refine ⟨_, Key.takes_ofRecord Output.merges hSection settings, ?_⟩
      simp [override, fieldOr_of_absent hAbsent]
    case validate =>
      rintro _ members settings ⟨b, rfl⟩ hAbsent
      refine ⟨_, Key.takes_flag b settings, ?_⟩
      simp [override, fieldOr_of_absent hAbsent]

/-- A document of settings overrides the defaults: every field that it gives has the given value, and
every other one keeps its default, whatever the order of the keys and the layout of the document. -/
theorem parse_override {members : List (String × Value)} {text : String}
    (hText : LaidOut (Value.object members).tokens text.toList)
    (hMembers : IsPartial fields members) :
    parse text = .ok (({} : Settings).override members) :=
  (reads_readRecord merges "GeneratorSettings" {} hMembers).readAll_eq_ok hText

/-- A section that is given in part, with a key that is no field of it. -/
def sampleLayout : List (String × Value) := [("unit", .scalar .null), ("instance", .string "gl")]

def sampleMembers : List (String × Value) :=
  [("validate", .boolean true), ("layout", .object sampleLayout)]

/-- The parts of a document whose keys are not in the order of the fields. -/
def sampleParts : List (List Char × Token) :=
  [([], .mark '\x7b'), ([' '], .scalar (.string "validate")), ([' '], .mark ':'),
    ([' '], .scalar (.boolean true)), ([], .mark ','), (['\n', '\t'], .scalar (.string "layout")),
    ([], .mark ':'), ([], .mark '\x7b'), ([], .scalar (.string "unit")), ([], .mark ':'),
    ([], .scalar .null), ([' '], .mark ','), ([' '], .scalar (.string "instance")),
    ([], .mark ':'), ([' '], .scalar (.string "gl")), ([], .mark '\x7d'), ([' '], .mark '\x7d')]

def sampleText : String :=
  "\x7b \"validate\" : true,\n\t\"layout\":\x7b\"unit\":null , \"instance\": \"gl\"\x7d \x7d"

theorem sampleText_laidOut : LaidOut (Value.object sampleMembers).tokens sampleText.toList := by
  have hText : sampleText.toList = spaced sampleParts := by decide +kernel
  have hTokens : (Value.object sampleMembers).tokens = sampleParts.map Prod.snd := by
    simp [sampleMembers, sampleLayout, sampleParts, Value.tokens, memberTokens, separatorTokens,
      Value.boolean, Value.string]
  have hBlanks : ∀ part ∈ sampleParts, ∀ c ∈ part.1, isBlank c = true := by
    simp [sampleParts, isBlank]
  rw [hText, hTokens]
  exact laidOut_spaced hBlanks (by decide)

theorem sampleLayout_isPartial : IsPartial Layout.fields sampleLayout where
  once := by decide
  fits := by
    have hInstance : (Value.string "gl").IsText := ⟨"gl", rfl⟩
    simpa [sampleLayout, Layout.fields] using hInstance
  others := by
    simpa [sampleLayout, Layout.fields] using Value.IsPlain.null

theorem sampleMembers_isPartial : IsPartial fields sampleMembers where
  once := by decide
  fits := by
    have hValidate : (Value.boolean true).IsFlag := ⟨true, rfl⟩
    have hLayout : (Value.object sampleLayout).IsObject (IsPartial Layout.fields) :=
      ⟨sampleLayout, rfl, sampleLayout_isPartial⟩
    simpa [sampleMembers, fields] using ⟨hValidate, hLayout⟩
  others := by simp [sampleMembers, fields]

theorem parse_override_sample :
    parse sampleText = .ok { validate := true, layout := { container := "gl" } } := by
  have hSettings : ({} : Settings).override sampleMembers =
      { validate := true, layout := { container := "gl" } } := by decide
  rw [← hSettings]
  exact parse_override sampleText_laidOut sampleMembers_isPartial

end Settings

end ShaderHandles
