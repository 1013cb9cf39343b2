import ShaderHandles.Proofs.C.Balance
import ShaderHandles.Proofs.C.Reader
import ShaderHandles.Proofs.Shader.Trees

/-!
# The artifacts as units of C

With the default settings the two texts of a well-formed registry are read as a header and as a source
file whose parts are the trees of its shaders.

* `Registry.header`, `Registry.source`: the two trees.
* `Registry.WellFormed.tokens_interface`, `Registry.WellFormed.tokens_implementation`: the tokens of
  the two texts.
* `Registry.WellFormed.readHeader_eq`, `Registry.WellFormed.readSource_eq`: what the two texts are read
  as.
-/

namespace ShaderHandles

open C (Scans LineScans spelled)

/-! ## Trees -/

namespace Registry

def sharedTypedef : C.Typedef where
  tag := "SimpleShader_"
  members := SimpleShader.sharedMembers.map handleMember
  name := "SimpleShader"

def header (registry : Registry) : C.Header where
  guard := "SHADERS_GEN_H"
  includes := [.quoted "glad.h"]
  shared := sharedTypedef
  container := ⟨"Shaders_", registry.toList.map Shader.member, "Shaders"⟩
  object := ⟨"Shaders", "shaders"⟩
  prototypes := ["shaders_load", "shaders_unload"]

/-- The statement that resets the container. -/
def resetTree : C.Statement :=
  .call ⟨"memset", [.addressOf "shaders", .number "0", .sizeOf "shaders"]⟩

def loadTrees (registry : Registry) : List C.Statement :=
  registry.toList.flatMap fun shader => shader.expand.loadTrees

def unloadTrees (registry : Registry) : List C.Statement :=
  (registry.toList.map fun shader => shader.expand.releaseTree) ++ [resetTree]

def source (registry : Registry) : C.Source where
  includes := [.system "string.h", .quoted "shaders.gen.h", .quoted "opengl_shader.h"]
  object := ⟨"Shaders", "shaders"⟩
  load := ⟨"shaders_load", registry.loadTrees⟩
  unload := ⟨"shaders_unload", registry.unloadTrees⟩

end Registry

/-! ## The header -/

/-- The sentences of the header before the members of the container. -/
def headerOpening : List C.Sentence :=
  [C.directive "ifndef" [.name "SHADERS_GEN_H"], C.directive "define" [.name "SHADERS_GEN_H"],
    C.directive "include" [.literal "glad.h"]] ++ Registry.sharedTypedef.sentences ++
  [⟨[.keyword "typedef", .keyword "struct", .name "Shaders_"], .opening⟩]

/-- The sentences of the header after the members of the container. -/
def headerClosing : List C.Sentence :=
  [⟨[], .closing⟩, ⟨[.name "Shaders"], .semicolon⟩,
    ⟨[.keyword "extern", .name "Shaders", .name "shaders"], .semicolon⟩,
    ⟨C.signature "shaders_load", .semicolon⟩, ⟨C.signature "shaders_unload", .semicolon⟩,
    C.directive "endif" []]

set_option maxRecDepth 4000 in
theorem interfaceOpening_scan :
    LinesScan ({} : Settings).interfaceOpening (spelled headerOpening) := by
  constructor
  simp only [Settings.interfaceOpening, SimpleShader.sharedMembers, SimpleShader.attributes,
    SimpleShader.uniforms, Api.handleDeclaration, List.map_cons, List.map_nil, List.cons_append,
    List.nil_append, Template.lines_cons, Template.lines_nil, String.toList_append]
  repeat rw [String.toList_ofList]
  exact ⟨rfl⟩

set_option maxRecDepth 4000 in
theorem interfaceClosing_scan :
    LinesScan ({} : Settings).interfaceClosing (spelled headerClosing) := by
  constructor
  simp only [Settings.interfaceClosing, Settings.lifecycleComment, List.cons_append,
    List.nil_append, Template.lines_cons, Template.lines_nil, String.toList_append]
  repeat rw [String.toList_ofList]
  exact ⟨rfl⟩

theorem Registry.spelled_header (registry : Registry) :
    spelled registry.header.sentences =
      spelled headerOpening ++
        (registry.toList.flatMap fun shader => spelled shader.member.sentences) ++
        spelled headerClosing := by
  have hSentences : registry.header.sentences =
      headerOpening ++ C.memberSentences (registry.toList.map Shader.member) ++ headerClosing := by
    simp [C.Header.sentences, header, headerOpening, headerClosing, C.Include.sentence,
      C.Typedef.sentences]
  rw [hSentences, C.spelled_append, C.spelled_append, C.spelled_memberSentences, List.flatMap_map]

/-! ## The source file -/

/-- The sentences of the source file before its routines. -/
def sourceOpening : List C.Sentence :=
  [C.directive "include" [.header "string.h"], C.directive "include" [.literal "shaders.gen.h"],
    C.directive "include" [.literal "opengl_shader.h"],
    ⟨[.name "Shaders", .name "shaders"], .semicolon⟩]

set_option maxRecDepth 4000 in
theorem implementationOpening_scan :
    LinesScan ({} : Settings).implementationOpening (spelled sourceOpening) := by
  constructor
  simp only [Settings.implementationOpening, List.map_cons, List.map_nil, List.cons_append,
    List.nil_append, Template.lines_cons, Template.lines_nil, String.toList_append]
  repeat rw [String.toList_ofList]
  exact ⟨rfl⟩

theorem loadOpening_scan :
    LineScans (Settings.routineOpening ({} : Settings).layout.loadFunction)
      (C.signature "shaders_load" ++ [.opening]) := by
  unfold LineScans
  simp only [Settings.routineOpening, String.toList_append]
  repeat rw [String.toList_ofList]
  exact ⟨rfl⟩

theorem unloadOpening_scan :
    LineScans (Settings.routineOpening ({} : Settings).layout.unloadFunction)
      (C.signature "shaders_unload" ++ [.opening]) := by
  unfold LineScans
  simp only [Settings.routineOpening, String.toList_append]
  repeat rw [String.toList_ofList]
  exact ⟨rfl⟩

theorem routineClosing_scan : LineScans "\x7d" [.closing] := by
  unfold LineScans
  rw [String.toList_ofList]
  exact ⟨rfl⟩

theorem resetLine_scan :
    LineScans ({} : Settings).resetLine (spelled Registry.resetTree.sentences) := by
  unfold LineScans
  simp only [Settings.resetLine, String.toList_append]
  repeat rw [String.toList_ofList]
  exact ⟨rfl⟩

/-- Blocks with empty lines between them are read one after the other. -/
theorem LinesScan.blocks {α : Type} {items : List α} {written : α → List String}
    {read : α → List C.Token} (hItems : ∀ item ∈ items, LinesScan (written item) (read item)) :
    LinesScan ([""].intercalate (items.map written)) (items.flatMap read) := by
  induction items with
  | nil => exact .nil
  | cons item rest ih =>
    have hItem := hItems item List.mem_cons_self
    have hRest := ih fun other hOther => hItems other (List.mem_cons_of_mem item hOther)
    cases rest with
    | nil => simpa using hItem
    | cons next rest =>
      have hNext : (next :: rest).map written ≠ [] := List.cons_ne_nil _ _
      have hEmpty := LinesScan.cons C.LineScans.empty hRest
      rw [List.map_cons, List.intercalate_cons_of_ne_nil hNext, List.flatMap_cons, List.append_assoc]
      exact hItem.append hEmpty

theorem Registry.spelled_source (registry : Registry) :
    spelled registry.source.sentences =
      spelled sourceOpening ++
        (C.signature "shaders_load" ++ [.opening] ++ (spelled (C.bodySentences registry.loadTrees) ++
          ([.closing] ++ (C.signature "shaders_unload" ++ [.opening] ++
            (spelled (C.bodySentences registry.unloadTrees) ++ [.closing]))))) := by
  simp [C.Source.sentences, source, sourceOpening, C.Include.sentence, C.Function.sentences,
    C.spelled_append, C.Sentence.tokens]

/-! ## The texts of a well-formed registry -/

namespace Registry.WellFormed

variable {registry : Registry}

/-- The header has the tokens of its tree. -/
theorem tokens_interface (h : registry.WellFormed) :
    C.tokens (({} : Settings).artifacts registry).interface =
      some (spelled registry.header.sentences) := by
  have hMembers : LinesScan (registry.toList.flatMap (Shader.declaration {}))
      (registry.toList.flatMap fun shader => spelled shader.member.sentences) :=
    .flatMap fun shader hShader => Shader.declaration_scan (h.shader shader hShader)
  have hAll := (interfaceOpening_scan.append hMembers).append interfaceClosing_scan
  rw [Settings.artifacts_interface, spelled_header]
  exact hAll.tokens

theorem loadBody_scan (h : registry.WellFormed) :
    LinesScan (({} : Settings).loadBody registry) (spelled (C.bodySentences registry.loadTrees)) := by
  have hBlocks : LinesScan (({} : Settings).loadBody registry)
      (registry.toList.flatMap fun shader => spelled (C.bodySentences shader.expand.loadTrees)) :=
    .blocks fun shader hShader => (h.shader shader hShader).loadLines_scan
  have hTokens : spelled (C.bodySentences registry.loadTrees) =
      registry.toList.flatMap fun shader => spelled (C.bodySentences shader.expand.loadTrees) := by
    simp only [C.spelled_bodySentences, loadTrees, List.flatMap_assoc]
  rwa [hTokens]

theorem unloadBody_scan (h : registry.WellFormed) :
    LinesScan (({} : Settings).unloadBody registry)
      (spelled (C.bodySentences registry.unloadTrees)) := by
  have hReleases : LinesScan (registry.toList.map (Shader.releaseLine {}))
      (registry.toList.flatMap fun shader => spelled shader.expand.releaseTree.sentences) := by
    apply LinesScan.map
    intro shader hShader
    have hLine := (h.shader shader hShader).releaseLine_scan
    rwa [shader.expand_name] at hLine
  have hTokens : spelled (C.bodySentences registry.unloadTrees) =
      (registry.toList.flatMap fun shader => spelled shader.expand.releaseTree.sentences) ++
        spelled resetTree.sentences := by
    rw [C.spelled_bodySentences, unloadTrees, List.flatMap_append, List.flatMap_map,
      List.flatMap_singleton]
  rw [hTokens]
  exact hReleases.append (.one resetLine_scan)

/-- The source file has the tokens of its tree. -/
theorem tokens_implementation (h : registry.WellFormed) :
    C.tokens (({} : Settings).artifacts registry).implementation =
      some (spelled registry.source.sentences) := by
  have hUnload := LinesScan.cons unloadOpening_scan
    (h.unloadBody_scan.append (.one routineClosing_scan))
  have hBetween := LinesScan.cons routineClosing_scan (.cons .empty hUnload)
  have hAll := implementationOpening_scan.append
    (.cons loadOpening_scan (h.loadBody_scan.append hBetween))
  have hLines : ({} : Settings).implementationLines registry =
      ({} : Settings).implementationOpening ++
        Settings.routineOpening ({} : Settings).layout.loadFunction ::
          (({} : Settings).loadBody registry ++ "\x7d" :: "" ::
            Settings.routineOpening ({} : Settings).layout.unloadFunction ::
              (({} : Settings).unloadBody registry ++ ["\x7d"])) := by
    rw [Settings.implementationLines]
    simp only [List.append_assoc, List.cons_append, List.nil_append]
  rw [Settings.artifacts_implementation, spelled_source, hLines]
  exact hAll.tokens

/-- The header is read as its tree. -/
theorem readHeader_eq (h : registry.WellFormed) :
    C.readHeader (({} : Settings).artifacts registry).interface = some registry.header :=
  C.readHeader_of_tokens h.tokens_interface

/-- The source file is read as its tree. -/
theorem readSource_eq (h : registry.WellFormed) :
    C.readSource (({} : Settings).artifacts registry).implementation = some registry.source :=
  C.readSource_of_tokens h.tokens_implementation

end Registry.WellFormed

end ShaderHandles
