import ShaderHandles.Proofs.Artifacts.Lines
import ShaderHandles.Proofs.C.Reader
import ShaderHandles.Proofs.Shader.Trees

/-!
# Correspondence of the two artifacts

The fields that the header declares are the fields that the load routine assigns. The header is read
line by line, with the members of the shared struct type taken from its own definition, and the load
routine is taken apart at its empty lines.

* `interfaceMembers`: the shaders that a header declares, each with the paths of its fields.
* `loadBlocks`: the blocks of lines in the load routine of a source file.
* `assignmentTargets`: what the lines of a text assign to.
-/

namespace ShaderHandles

open C (LineScans spelled)

/-! ## Reading a header line by line -/

/-- The tokens of a line by itself. -/
def lineTokens (line : String) : Option (List C.Token) := C.tokens (line ++ "\n")

/-- What a line of a struct says. -/
inductive Declarator where
  | opens
  | handle (name : String)
  | shared (name : String)
  | closes (name : String)
  deriving DecidableEq

def declarator? (line : String) : Option Declarator :=
  match lineTokens line with
  | some [.keyword "struct", .opening] => some .opens
  | some [.name "GLuint", .name name, .semicolon] => some (.handle name)
  | some [.name "SimpleShader", .name name, .semicolon] => some (.shared name)
  | some [.closing, .name name, .semicolon] => some (.closes name)
  | _ => none

/-- The struct that a reader stands in, with the fields read so far. -/
inductive Scope where
  | container
  | shader (fields : List String)
  | group (fields inner : List String)

/-- A reader of the container's lines: the shaders that it has read, and where it stands. -/
structure MemberReader where
  members : List (String × List String)
  scope : Scope

namespace MemberReader

/-- One line. A shader of the shared type has the fields `fields`. -/
def step (fields : List String) (reader : MemberReader) (line : String) : Option MemberReader :=
  match reader, declarator? line with
  | ⟨members, .container⟩, some (.shared name) => some ⟨members ++ [(name, fields)], .container⟩
  | ⟨members, .container⟩, some .opens => some ⟨members, .shader []⟩
  | ⟨members, .shader own⟩, some (.handle name) => some ⟨members, .shader (own ++ [name])⟩
  | ⟨members, .shader own⟩, some .opens => some ⟨members, .group own []⟩
  | ⟨members, .shader own⟩, some (.closes name) => some ⟨members ++ [(name, own)], .container⟩
  | ⟨members, .group own inner⟩, some (.handle name) =>
    some ⟨members, .group own (inner ++ [name])⟩
  | ⟨members, .group own inner⟩, some (.closes name) =>
    some ⟨members, .shader (own ++ inner.map (Field.groupPath name))⟩
  | _, _ => none

def run (fields : List String) (reader : MemberReader) : List String → Option MemberReader
  | [] => some reader
  | line :: rest => (reader.step fields line).bind fun next => next.run fields rest

end MemberReader

/-- The member that a line of the shared struct type declares. -/
def handleName? (line : String) : Option String :=
  match declarator? line with
  | some (.handle name) => some name
  | _ => none

/-- The shaders that a header declares, each with the paths of its fields. -/
def interfaceMembers (header : String) : Option (List (String × List String)) := do
  let lines := Text.linesOf header
  let fields ← (Text.between "typedef struct SimpleShader_ \x7b" "\x7d SimpleShader;" lines).mapM
    handleName?
  let body := Text.between "typedef struct Shaders_ \x7b" "\x7d Shaders;" lines
  match ← MemberReader.run fields ⟨[], .container⟩ body with
  | ⟨members, .container⟩ => some members
  | _ => none

/-! ## Reading a source file line by line -/

/-- The blocks of lines in the load routine. -/
def loadBlocks (source : String) : List (List String) :=
  (Text.between "void shaders_load (void) \x7b" "\x7d" (Text.linesOf source)).splitOn ""

/-- The place that a line assigns to. -/
def assignmentTarget? (line : String) : Option String :=
  match (lineTokens line).bind (C.sentences []) with
  | some [⟨words, .semicolon⟩] =>
    match C.readSimple words with
    | some (.assign target _) => some (dotted (target.root :: target.members))
    | _ => none
  | _ => none

/-- The places that the lines of a text assign to. -/
def assignmentTargets (text : String) : List String :=
  (Text.linesOf text).filterMap assignmentTarget?

/-! ## Lines of the artifacts -/

theorem lineTokens_of_scans {line : String} {found : List C.Token} (hLine : LineScans line found) :
    lineTokens line = some found := by
  have hScan : C.scan .start (line.toList ++ "\n".toList) = some (found, .start) := hLine.result
  rw [lineTokens, C.tokens, String.toList_append, hScan, Option.bind_some]
  exact if_pos rfl

/-! ## The lines of a shader -/

theorem declarator?_handle {indent name : String} (hName : C.isIdentifier name = true)
    (hIndent : Blanks indent) :
    declarator? (({} : Api).handleDeclaration indent name) = some (.handle name) := by
  rw [declarator?, lineTokens_of_scans (handleDeclaration_scan hName hIndent)]
  rfl

theorem declarator?_shared {name : String} (hName : C.isIdentifier name = true) :
    declarator? (Indent.member ++ ({} : Settings).layout.simpleType ++ " " ++ name ++ ";") =
      some (.shared name) := by
  rw [declarator?, lineTokens_of_scans (sharedDeclaration_scan hName)]
  rfl

theorem declarator?_opening {indent : String} (hIndent : Blanks indent) :
    declarator? (indent ++ "struct \x7b") = some .opens := by
  rw [declarator?, lineTokens_of_scans (structOpening_scan hIndent)]
  rfl

theorem declarator?_closing {indent name : String} (hName : C.isIdentifier name = true)
    (hIndent : Blanks indent) :
    declarator? (indent ++ "\x7d " ++ name ++ ";") = some (.closes name) := by
  rw [declarator?, lineTokens_of_scans (structClosing_scan hName hIndent)]
  rfl

theorem handleNames {indent : String} {names : List String}
    (hNames : ∀ name ∈ names, C.isIdentifier name = true) (hIndent : Blanks indent) :
    (names.map (({} : Api).handleDeclaration indent)).mapM handleName? = some names := by
  induction names with
  | nil => rfl
  | cons name rest ih =>
    have hFirst : handleName? (({} : Api).handleDeclaration indent name) = some name := by
      rw [handleName?, declarator?_handle (hNames name List.mem_cons_self) hIndent]
    rw [List.map_cons, List.mapM_cons, hFirst,
      ih fun other hOther => hNames other (List.mem_cons_of_mem name hOther)]
    rfl

namespace MemberReader

variable {fields : List String}

theorem run_append (reader : MemberReader) (first second : List String) :
    reader.run fields (first ++ second) =
      (reader.run fields first).bind fun next => next.run fields second := by
  induction first generalizing reader with
  | nil => rfl
  | cons line rest ih => simp [run, ih, Option.bind_assoc]

/-- A reader becomes another one over some lines. -/
structure Reads (fields : List String) (reader : MemberReader) (lines : List String)
    (next : MemberReader) : Prop where
  result : reader.run fields lines = some next

namespace Reads

variable {reader next last : MemberReader} {first second : List String} {line : String}

theorem nil : Reads fields reader [] reader := ⟨rfl⟩

theorem append (hFirst : Reads fields reader first next) (hSecond : Reads fields next second last) :
    Reads fields reader (first ++ second) last := by
  constructor
  rw [run_append, hFirst.result, Option.bind_some, hSecond.result]

theorem one (hStep : reader.step fields line = some next) : Reads fields reader [line] next := by
  constructor
  rw [run, hStep]
  rfl

end Reads

variable {members : List (String × List String)}

/-- Handles are added to the struct that the reader stands in. -/
theorem reads_handles {scope : List String → Scope} {indent : String} {names : List String}
    (hScope : ∀ read line name, declarator? line = some (.handle name) →
      step fields ⟨members, scope read⟩ line = some ⟨members, scope (read ++ [name])⟩)
    (hNames : ∀ name ∈ names, C.isIdentifier name = true) (hIndent : Blanks indent)
    (read : List String) :
    Reads fields ⟨members, scope read⟩ (names.map (({} : Api).handleDeclaration indent))
      ⟨members, scope (read ++ names)⟩ := by
  induction names generalizing read with
  | nil =>
    rw [List.append_nil]
    exact .nil
  | cons name rest ih =>
    have hFirst := hScope read _ name (declarator?_handle (hNames name List.mem_cons_self) hIndent)
    have hRest := ih (fun other hOther => hNames other (List.mem_cons_of_mem name hOther))
      (read ++ [name])
    rw [List.append_assoc] at hRest
    exact (Reads.one hFirst).append hRest

theorem reads_group {shader : GeneralShader} {group : SubroutineGroup} (h : shader.WellFormed)
    (hGroup : group ∈ shader.groups) (own : List String) :
    Reads fields ⟨members, .shader own⟩ (group.declaration {})
      ⟨members, .shader (own ++ group.fields.map Field.path)⟩ := by
  have hOpen : step fields ⟨members, .shader own⟩ (Indent.field ++ "struct \x7b") =
      some ⟨members, .group own []⟩ := by
    unfold step
    rw [declarator?_opening blanks_field]
  have hInner : Reads fields ⟨members, .group own []⟩
      ((Field.selectorMember :: group.variants).map (({} : Api).handleDeclaration Indent.nested))
      ⟨members, .group own ([] ++ (Field.selectorMember :: group.variants))⟩ := by
    refine reads_handles (fun read line name hLine => ?_) (h.isIdentifier_of_mem_group hGroup)
      blanks_nested []
    unfold step
    rw [hLine]
  have hClose : step fields ⟨members, .group own ([] ++ (Field.selectorMember :: group.variants))⟩
      (Indent.field ++ "\x7d " ++ group.name ++ ";") =
      some ⟨members, .shader (own ++ group.fields.map Field.path)⟩ := by
    unfold step
    rw [declarator?_closing (h.isIdentifier_groupName hGroup) blanks_field]
    simp [SubroutineGroup.fields, Field.path]
  exact ((Reads.one hOpen).append hInner).append (.one hClose)

theorem reads_groups {shader : GeneralShader} {groups : List SubroutineGroup} (h : shader.WellFormed)
    (hGroups : ∀ group ∈ groups, group ∈ shader.groups) (own : List String) :
    Reads fields ⟨members, .shader own⟩ (groups.flatMap (SubroutineGroup.declaration {}))
      ⟨members, .shader (own ++ (groups.flatMap SubroutineGroup.fields).map Field.path)⟩ := by
  induction groups generalizing own with
  | nil =>
    rw [List.flatMap_nil, List.flatMap_nil, List.map_nil, List.append_nil]
    exact .nil
  | cons group rest ih =>
    have hFirst : Reads fields ⟨members, .shader own⟩ (group.declaration {}) _ :=
      reads_group h (hGroups group List.mem_cons_self) own
    have hRest := ih (fun other hOther => hGroups other (List.mem_cons_of_mem group hOther))
      (own ++ group.fields.map Field.path)
    rw [List.append_assoc, ← List.map_append, ← List.flatMap_cons] at hRest
    rw [List.flatMap_cons]
    exact hFirst.append hRest

theorem reads_struct {shader : GeneralShader} (h : shader.WellFormed) :
    Reads fields ⟨members, .container⟩ (shader.declaration {})
      ⟨members ++ [(shader.name, shader.fieldPaths)], .container⟩ := by
  let plain := Field.programMember :: (shader.attributes ++ shader.uniforms)
  have hOpen : step fields ⟨members, .container⟩ (Indent.member ++ "struct \x7b") =
      some ⟨members, .shader []⟩ := by
    unfold step
    rw [declarator?_opening blanks_member]
  have hPlain : Reads fields ⟨members, .shader []⟩
      (plain.map (({} : Api).handleDeclaration Indent.field)) ⟨members, .shader ([] ++ plain)⟩ := by
    refine reads_handles (fun read line name hLine => ?_) h.isIdentifier_of_mem_plain blanks_field []
    unfold step
    rw [hLine]
  have hGroups : Reads fields ⟨members, .shader ([] ++ plain)⟩
      (shader.groups.flatMap (SubroutineGroup.declaration {})) ⟨members, .shader shader.fieldPaths⟩ := by
    have hPaths : shader.fieldPaths =
        [] ++ plain ++ (shader.groups.flatMap SubroutineGroup.fields).map Field.path := by
      simp [plain, GeneralShader.fieldPaths, GeneralShader.fields, GeneralShader.plainFields,
        GeneralShader.subroutineFields, Field.path, Function.comp_def]
    rw [hPaths]
    exact reads_groups h (fun group hGroup => hGroup) ([] ++ plain)
  have hClose : step fields ⟨members, .shader shader.fieldPaths⟩
      (Indent.member ++ "\x7d " ++ shader.name ++ ";") =
      some ⟨members ++ [(shader.name, shader.fieldPaths)], .container⟩ := by
    unfold step
    rw [declarator?_closing h.name blanks_member]
  exact (((Reads.one hOpen).append hPlain).append hGroups).append (.one hClose)

/-- The declaration of a shader is read as its name and the paths of its fields. -/
theorem reads_declaration {shader : Shader} (h : shader.expand.WellFormed) :
    Reads SimpleShader.sharedMembers ⟨members, .container⟩ (shader.declaration {})
      ⟨members ++ [(shader.name, shader.fieldPaths)], .container⟩ := by
  cases shader with
  | general shader => exact reads_struct h
  | simple shader =>
    have hName : C.isIdentifier shader.name = true := h.name
    apply Reads.one
    unfold step
    rw [declarator?_shared hName]
    rfl

theorem reads_declarations {shaders : List Shader} (h : ∀ shader ∈ shaders, shader.expand.WellFormed)
    (members : List (String × List String)) :
    Reads SimpleShader.sharedMembers ⟨members, .container⟩
      (shaders.flatMap (Shader.declaration {}))
      ⟨members ++ shaders.map fun shader => (shader.name, shader.fieldPaths), .container⟩ := by
  induction shaders generalizing members with
  | nil =>
    rw [List.map_nil, List.append_nil]
    exact .nil
  | cons shader rest ih =>
    have hFirst : Reads SimpleShader.sharedMembers ⟨members, .container⟩ (shader.declaration {}) _ :=
      reads_declaration (h shader List.mem_cons_self)
    have hRest := ih (fun other hOther => h other (List.mem_cons_of_mem shader hOther))
      (members ++ [(shader.name, shader.fieldPaths)])
    rw [List.append_assoc] at hRest
    exact hFirst.append hRest

end MemberReader

/-! ## Targets of lines -/

namespace GeneralShader.WellFormed

variable {shader : GeneralShader}

/-- The line that resolves a field assigns to the place of that field. -/
theorem assignmentTarget?_loadStatement {field : Field} {indent : String} (h : shader.WellFormed)
    (hField : field ∈ shader.fields) (hIndent : Blanks indent) :
    assignmentTarget? (shader.loadStatement {} indent field) =
      some (({} : Layout).place shader.name field.path) := by
  have hSentences : C.sentences [] (spelled (shader.loadTree field).sentences) =
      some (shader.loadTree field).sentences :=
    C.sentences_spelled (C.closed_of_mem_statement _)
  rw [assignmentTarget?, lineTokens_of_scans (h.loadStatement_scan hField hIndent),
    Option.bind_some, hSentences, loadTree, C.Statement.sentences]
  simp only [C.Call.readSimple_assign]
  rw [place_eq_dotted, fieldPlace]

theorem filterMap_loadStatements {fields : List Field} {indent : String} (h : shader.WellFormed)
    (hFields : ∀ field ∈ fields, field ∈ shader.fields) (hIndent : Blanks indent) :
    (fields.map (shader.loadStatement {} indent)).filterMap assignmentTarget? =
      fields.map fun field => ({} : Layout).place shader.name field.path := by
  rw [List.filterMap_map, ← List.filterMap_eq_map]
  apply List.filterMap_congr
  intro field hField
  rw [Function.comp_apply, Function.comp_apply]
  exact h.assignmentTarget?_loadStatement (hFields field hField) hIndent

theorem filterMap_guardedLines (h : shader.WellFormed) :
    (shader.guardedLines {}).filterMap assignmentTarget? =
      shader.subroutineFields.map fun field => ({} : Layout).place shader.name field.path := by
  have hOpening : assignmentTarget? (Indent.member ++ "if (" ++ ({} : Settings).api.hasCapability ++
      "( " ++ ({} : Settings).api.subroutineCapability ++ " )) \x7b") = none := by
    rw [assignmentTarget?, lineTokens_of_scans checkOpening_scan]
    rfl
  have hClosing : assignmentTarget? (Indent.member ++ "\x7d") = none := by
    rw [assignmentTarget?, lineTokens_of_scans checkClosing_scan]
    rfl
  have hBody := h.filterMap_loadStatements (fun field => List.mem_append_right _) blanks_field
  unfold guardedLines
  split
  case isTrue hEmpty =>
    rw [subroutineFields, List.isEmpty_iff.mp hEmpty]
    rfl
  case isFalse =>
    rw [List.filterMap_append, List.filterMap_cons, hOpening]
    simp only [hBody, List.filterMap_cons, hClosing, List.filterMap_nil, List.append_nil]

/-- The lines of the load routine for a shader assign to its fields, in order. -/
theorem filterMap_loadLines (h : shader.WellFormed) :
    (shader.loadLines {}).filterMap assignmentTarget? =
      shader.fields.map fun field => ({} : Layout).place shader.name field.path := by
  have hPlain := h.filterMap_loadStatements (fun field => List.mem_append_left _) blanks_member
  rw [loadLines, List.filterMap_append, hPlain, h.filterMap_guardedLines, fields, List.map_append]

theorem assignmentTarget?_releaseLine (h : shader.WellFormed) :
    assignmentTarget? (Indent.member ++ ({} : Settings).api.deleteProgram ++ "(" ++
      ({} : Settings).layout.programOf shader.name ++ ");") = none := by
  have hSentences : C.sentences [] (spelled shader.releaseTree.sentences) =
      some shader.releaseTree.sentences :=
    C.sentences_spelled (C.closed_of_mem_statement _)
  rw [assignmentTarget?, lineTokens_of_scans h.releaseLine_scan, Option.bind_some, hSentences,
    releaseTree, C.Statement.sentences]
  simp only [C.Call.readSimple_tokens]

end GeneralShader.WellFormed

/-! ## The header -/

namespace Registry.WellFormed

variable {registry : Registry}

theorem isIdentifier_of_mem_sharedMembers :
    ∀ name ∈ SimpleShader.sharedMembers, C.isIdentifier name = true := by decide

theorem blanks_shared : Blanks "    " := by
  rw [Blanks, String.toList_ofList]
  exact ⟨rfl⟩

/-- Between its opening and closing lines the shared struct holds its fields. -/
theorem between_shared (registry : Registry) :
    Text.between "typedef struct SimpleShader_ \x7b" "\x7d SimpleShader;"
      (({} : Settings).interfaceLines registry) =
      SimpleShader.sharedMembers.map (({} : Api).handleDeclaration "    ") := by
  let shared := SimpleShader.sharedMembers.map (({} : Api).handleDeclaration "    ")
  have hParts : ({} : Settings).interfaceOpening = ({} : Settings).interfaceOpening.take 5 ++
      "typedef struct SimpleShader_ \x7b" :: (shared ++ "\x7d SimpleShader;" ::
        ({} : Settings).interfaceOpening.drop 16) := by decide +kernel
  have hOpening : "typedef struct SimpleShader_ \x7b" ∉
      ({} : Settings).interfaceOpening.take 5 := by decide +kernel
  have hClosing : "\x7d SimpleShader;" ∉ shared := by decide +kernel
  rw [Settings.interfaceLines, hParts, List.append_assoc, List.append_assoc, List.cons_append,
    List.append_assoc, List.cons_append, Text.between_eq hOpening hClosing]

/-- Between its opening and closing lines the container holds the declarations of the shaders. -/
theorem between_container (h : registry.WellFormed) :
    Text.between "typedef struct Shaders_ \x7b" "\x7d Shaders;"
      (({} : Settings).interfaceLines registry) = registry.toList.flatMap (Shader.declaration {}) := by
  have hParts : ({} : Settings).interfaceOpening =
      ({} : Settings).interfaceOpening.dropLast ++ ["typedef struct Shaders_ \x7b"] := by
    decide +kernel
  have hEnd : ({} : Settings).interfaceClosing =
      "\x7d Shaders;" :: ({} : Settings).interfaceClosing.tail := rfl
  have hOpening : "typedef struct Shaders_ \x7b" ∉ ({} : Settings).interfaceOpening.dropLast := by
    decide +kernel
  have hClosing : "\x7d Shaders;" ∉ registry.toList.flatMap (Shader.declaration {}) :=
    Text.Indented.not_mem (by decide) h.indented_declarations
  rw [Settings.interfaceLines, hParts, hEnd, List.append_assoc, List.append_assoc,
    List.cons_append, List.nil_append, Text.between_eq hOpening hClosing]

/-- The header declares every shader with the paths of its fields, in the order of the registry. -/
theorem interfaceMembers_eq (h : registry.WellFormed) :
    interfaceMembers (({} : Settings).artifacts registry).interface =
      some (registry.toList.map fun shader => (shader.name, shader.fieldPaths)) := by
  have hReads := MemberReader.reads_declarations h.shader []
  have hShared := handleNames isIdentifier_of_mem_sharedMembers blanks_shared
  rw [interfaceMembers, h.linesOf_interface]
  simp only [between_shared, h.between_container, hShared, Option.bind_eq_bind, Option.bind_some,
    hReads.result, List.nil_append]

/-! ## The load routine -/

/-- Between its opening and closing lines the load routine holds its body. -/
theorem between_load (h : registry.WellFormed) :
    Text.between "void shaders_load (void) \x7b" "\x7d" (({} : Settings).implementationLines registry) =
      ({} : Settings).loadBody registry := by
  have hRoutine : Settings.routineOpening ({} : Settings).layout.loadFunction =
      "void shaders_load (void) \x7b" := by decide +kernel
  have hOpening : "void shaders_load (void) \x7b" ∉ ({} : Settings).implementationOpening := by
    decide +kernel
  have hClosing : "\x7d" ∉ ({} : Settings).loadBody registry := by
    intro hMem
    rcases h.eq_empty_or_indented_of_mem_loadBody _ hMem with hEmpty | hIndented
    · exact absurd hEmpty (by decide)
    · exact absurd hIndented.head (by decide)
  rw [Settings.implementationLines, hRoutine]
  simp only [List.append_assoc, List.cons_append, List.nil_append]
  rw [Text.between_eq hOpening hClosing]

/-- The load routine has one block for each shader, in the order of the registry. -/
theorem loadBlocks_eq (h : registry.WellFormed) :
    loadBlocks (({} : Settings).artifacts registry).implementation =
      registry.toList.map (Shader.loadLines {}) := by
  rw [loadBlocks, h.linesOf_implementation, h.between_load]
  apply List.splitOn_intercalate
  · intro block hBlock
    exact Text.Indented.not_mem (by decide) (h.indented_loadLines block hBlock)
  · exact fun hNil => h.nonempty (List.map_eq_nil_iff.mp hNil)

end Registry.WellFormed

/-! ## The targets -/

/-- The place of a field as the load routine writes it. -/
def fieldTarget (shader path : String) : String := "shaders." ++ shader ++ "." ++ path

theorem place_eq_fieldTarget (shader path : String) :
    ({} : Layout).place shader path = fieldTarget shader path := by
  have hContainer : ({} : Layout).container ++ "." = "shaders." := by decide +kernel
  rw [Layout.place, hContainer, fieldTarget]

/-- The places of a shader's fields, in order. -/
def Shader.targets (shader : Shader) : List String :=
  shader.fieldPaths.map (fieldTarget shader.name)

theorem Shader.filterMap_loadLines {shader : Shader} (h : shader.expand.WellFormed) :
    (shader.loadLines {}).filterMap assignmentTarget? = shader.targets := by
  rw [loadLines, h.filterMap_loadLines, targets, fieldPaths, GeneralShader.fieldPaths, List.map_map,
    shader.expand_name]
  exact List.map_congr_left fun field _ => place_eq_fieldTarget shader.name field.path

theorem Shader.targets_eq_map_places (shader : Shader) :
    shader.targets = shader.places.map fun place => dotted ("shaders" :: place) := by
  rw [targets, fieldPaths, GeneralShader.fieldPaths, places, List.map_map, List.map_map]
  apply List.map_congr_left
  intro field _
  have hPlace := place_eq_dotted shader.expand field
  rw [place_eq_fieldTarget, shader.expand_name] at hPlace
  exact hPlace

theorem filterMap_blocks {blocks : List (List String)} {read : String → Option String}
    (hEmpty : read "" = none) :
    ([""].intercalate blocks).filterMap read = blocks.flatMap (List.filterMap read) := by
  induction blocks with
  | nil => rfl
  | cons block rest ih =>
    cases rest with
    | nil => simp
    | cons next rest =>
      rw [List.intercalate_cons_of_ne_nil (List.cons_ne_nil next rest), List.filterMap_append,
        List.filterMap_append, ih, List.filterMap_cons, hEmpty]
      simp

namespace Registry.WellFormed

variable {registry : Registry}

theorem assignmentTarget?_empty : assignmentTarget? "" = none := by decide +kernel

theorem filterMap_loadBody (h : registry.WellFormed) :
    (({} : Settings).loadBody registry).filterMap assignmentTarget? =
      registry.toList.flatMap Shader.targets := by
  rw [Settings.loadBody, filterMap_blocks assignmentTarget?_empty, List.flatMap_map]
  apply List.flatMap_congr
  intro shader hShader
  exact Shader.filterMap_loadLines (h.shader shader hShader)

theorem filterMap_unloadBody (h : registry.WellFormed) :
    (({} : Settings).unloadBody registry).filterMap assignmentTarget? = [] := by
  have hReset : assignmentTarget? ({} : Settings).resetLine = none := by decide +kernel
  rw [List.filterMap_eq_nil_iff]
  intro line hLine
  rcases List.mem_append.mp hLine with hLine | hLine
  · obtain ⟨shader, hShader, rfl⟩ := List.mem_map.mp hLine
    have hRelease := (h.shader shader hShader).assignmentTarget?_releaseLine
    rwa [shader.expand_name] at hRelease
  · rw [List.mem_singleton.mp hLine]
    exact hReset

/-- The lines of the source file assign to the fields of all shaders, in order, and to nothing else. -/
theorem assignmentTargets_eq (h : registry.WellFormed) :
    assignmentTargets (({} : Settings).artifacts registry).implementation =
      registry.toList.flatMap Shader.targets := by
  have hOpening : ({} : Settings).implementationOpening.filterMap assignmentTarget? = [] := by
    decide +kernel
  have hLoad : [Settings.routineOpening ({} : Settings).layout.loadFunction].filterMap
      assignmentTarget? = [] := by decide +kernel
  have hBetween : ["\x7d", "", Settings.routineOpening ({} : Settings).layout.unloadFunction].filterMap
      assignmentTarget? = [] := by decide +kernel
  have hEnd : ["\x7d"].filterMap assignmentTarget? = [] := by decide +kernel
  have hLines : ({} : Settings).implementationLines registry =
      ({} : Settings).implementationOpening ++
        ([Settings.routineOpening ({} : Settings).layout.loadFunction] ++
          (({} : Settings).loadBody registry ++
            (["\x7d", "", Settings.routineOpening ({} : Settings).layout.unloadFunction] ++
              (({} : Settings).unloadBody registry ++ ["\x7d"])))) := by
    rw [Settings.implementationLines]
    simp only [List.append_assoc, List.cons_append, List.nil_append]
  rw [assignmentTargets, h.linesOf_implementation, hLines]
  simp only [List.filterMap_append, hOpening, hLoad, hBetween, hEnd, h.filterMap_loadBody,
    h.filterMap_unloadBody, List.nil_append, List.append_nil]

/-- No two statements of the source file assign to the same place. -/
theorem targets_nodup (h : registry.WellFormed) : (registry.toList.flatMap Shader.targets).Nodup := by
  have hPlaces : registry.toList.flatMap Shader.targets =
      registry.places.map fun place => dotted ("shaders" :: place) := by
    rw [places, List.map_flatMap]
    exact congrArg registry.toList.flatMap (funext Shader.targets_eq_map_places)
  have hDots {place : List String} (hPlace : place ∈ registry.places) :
      ∀ name ∈ "shaders" :: place, '.' ∉ name.toList := by
    intro name hName
    rcases List.mem_cons.mp hName with rfl | hName
    · decide
    · exact C.not_mem_of_isIdentifier (h.isIdentifier_of_mem_places hPlace name hName) rfl
  rw [hPlaces]
  apply h.places_nodup.map_on
  intro first hFirst second hSecond hEq
  have hPaths := dotted_injective (List.cons_ne_nil _ _) (List.cons_ne_nil _ _) (hDots hFirst)
    (hDots hSecond) hEq
  exact List.tail_eq_of_cons_eq hPaths

end Registry.WellFormed

/-! ## The correspondence -/

/-- The fields that the header declares are the fields that the load routine populates. -/
structure FieldsCorrespond (registry : Registry) (artifacts : Artifacts) : Prop where
  members : interfaceMembers artifacts.interface =
    some (registry.toList.map fun shader => (shader.name, shader.fieldPaths))
  blocks : (loadBlocks artifacts.implementation).map (List.filterMap assignmentTarget?) =
    registry.toList.map Shader.targets
  /-- No line outside of the blocks assigns to anything. -/
  inBlocks : assignmentTargets artifacts.implementation =
    (loadBlocks artifacts.implementation).flatMap (List.filterMap assignmentTarget?)
  distinct : (assignmentTargets artifacts.implementation).Nodup
  once : ∀ shader ∈ registry.toList, ∀ path ∈ shader.fieldPaths,
    (assignmentTargets artifacts.implementation).count (fieldTarget shader.name path) = 1

theorem Registry.WellFormed.fieldsCorrespond {registry : Registry} (h : registry.WellFormed) :
    FieldsCorrespond registry (({} : Settings).artifacts registry) where
  members := h.interfaceMembers_eq
  blocks := by
    rw [h.loadBlocks_eq, List.map_map]
    apply List.map_congr_left
    intro shader hShader
    exact Shader.filterMap_loadLines (h.shader shader hShader)
  inBlocks := by
    rw [h.assignmentTargets_eq, h.loadBlocks_eq, List.flatMap_map]
    apply List.flatMap_congr
    intro shader hShader
    exact (Shader.filterMap_loadLines (h.shader shader hShader)).symm
  distinct := by
    rw [h.assignmentTargets_eq]
    exact h.targets_nodup
  once := by
    intro shader hShader path hPath
    rw [h.assignmentTargets_eq]
    apply List.count_eq_one_of_mem h.targets_nodup
    exact List.mem_flatMap.mpr ⟨shader, hShader, List.mem_map_of_mem hPath⟩

namespace Registry

/-- The two artifacts of an accepted registry correspond: the header, read line by line, declares
every shader with its fields, and the load routine has a block for each shader that assigns to these
fields, to each of them once. -/
theorem artifacts_correspond {registry : Registry} (hAccepted : registry.Accepted) :
    ∃ artifacts, (({} : Settings).generate registry).result = .ok artifacts ∧
      FieldsCorrespond registry artifacts := by
  have hWell := accepted_iff_wellFormed.mp hAccepted
  exact ⟨_, Settings.generate_default registry, hWell.fieldsCorrespond⟩

/-- The registry of two shaders, one of each kind, is accepted, so its artifacts correspond. -/
theorem artifacts_correspond_sample :
    sample.Accepted ∧ ∃ artifacts, (({} : Settings).generate sample).result = .ok artifacts ∧
      FieldsCorrespond sample artifacts :=
  ⟨sample_accepted, artifacts_correspond sample_accepted⟩

end Registry

end ShaderHandles
