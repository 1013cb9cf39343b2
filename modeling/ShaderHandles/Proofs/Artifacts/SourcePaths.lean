import ShaderHandles.Proofs.Artifacts.Lines
import ShaderHandles.Proofs.C.Literals

/-!
# Source paths in the generated code

The generated source file passes the two paths of a shader to the compiling function between double
quotes. A path that the check accepts holds nothing that would end a literal or begin an escape
sequence, but it may hold a trigraph, which a compiler of C99 replaces before it looks for literals.
So both paths reach the function exactly if neither holds one.

* `C.translated`: a text after the first phases of translation.
* `Settings.translated_implementation`: the lines of the source file are read one by one.
* `GeneralShader.WellFormed.passed?_compileLine_iff`: what the line that compiles a program passes.
* `Registry.sourcePaths_survive`: paths without trigraphs are the ones that survive.
-/

namespace ShaderHandles

open Text (IsLine)

namespace C

/-- A text after the first phases of translation. -/
def translated (text : String) : String := .ofList (translate text.toList)

/-- A line that the next one is not joined with. -/
structure Complete (line : String) : Prop where
  last : (replaceTrigraphs line.toList).getLast? ≠ some '\\'

theorem Complete.of_last {line : String} {mark : Char} (hLine : line.toList.getLast? = some mark)
    (hMark : Separates mark) (hBackslash : mark ≠ '\\') : Complete line := by
  constructor
  obtain ⟨before, hBefore⟩ := List.getLast?_eq_some_iff.mp hLine
  have hReplaced : replaceTrigraphs (before ++ [mark]) = replaceTrigraphs before ++ [mark] :=
    replaceTrigraphs_append hMark before []
  rw [hBefore, hReplaced, List.getLast?_concat]
  exact fun hEq => hBackslash (Option.some.inj hEq)

/-- Complete lines are read one by one. -/
theorem translated_lines {lines : List String} (hLines : ∀ line ∈ lines, IsLine line)
    (hComplete : ∀ line ∈ lines, Complete line) :
    translated (Template.lines lines) = Template.lines (lines.map translated) := by
  rw [← String.toList_inj, translated, String.toList_ofList]
  induction lines with
  | nil => rfl
  | cons line rest ih =>
    have hText : (Template.lines (line :: rest)).toList =
        line.toList ++ '\n' :: (Template.lines rest).toList := by
      rw [Template.lines_cons, String.toList_append, String.toList_append, List.append_assoc]
      rfl
    have hRest := ih (fun other hOther => hLines other (List.mem_cons_of_mem line hOther))
      fun other hOther => hComplete other (List.mem_cons_of_mem line hOther)
    rw [hText, translate_append_lineEnd (hLines line List.mem_cons_self)
      (hComplete line List.mem_cons_self).last, hRest, List.map_cons, Template.lines_cons,
      String.toList_append, String.toList_append, translated, String.toList_ofList, List.append_assoc]
    rfl

theorem isLine_translated {line : String} (hLine : IsLine line) : IsLine (translated line) := by
  unfold IsLine translated
  rw [String.toList_ofList, translate_eq_replaceTrigraphs hLine]
  exact lineEnd_not_mem_replaceTrigraphs hLine

end C

/-! ## Lines of the source file -/

open C (Complete)

theorem complete_semicolon {line : String} (hLine : line.toList.getLast? = some ';') : Complete line :=
  .of_last hLine ⟨by decide, by decide⟩ (by decide)

theorem GeneralShader.complete_loadStatement (shader : GeneralShader) (indent : String)
    (field : Field) : Complete (shader.loadStatement {} indent field) := by
  apply complete_semicolon
  rw [loadStatement, String.toList_append, List.getLast?_append]
  rfl

theorem Shader.complete_loadLines (shader : Shader) : ∀ line ∈ shader.loadLines {}, Complete line := by
  intro line hLine
  rcases List.mem_append.mp hLine with hLine | hLine
  · obtain ⟨field, -, rfl⟩ := List.mem_map.mp hLine
    exact GeneralShader.complete_loadStatement _ _ _
  · unfold GeneralShader.guardedLines at hLine
    split at hLine
    · exact absurd hLine List.not_mem_nil
    · rw [List.mem_append, List.mem_cons, List.mem_singleton] at hLine
      rcases hLine with (rfl | hLine) | rfl
      · exact ⟨by decide⟩
      · obtain ⟨field, -, rfl⟩ := List.mem_map.mp hLine
        exact GeneralShader.complete_loadStatement _ _ _
      · exact ⟨by decide⟩

theorem Shader.complete_releaseLine (shader : Shader) : Complete (shader.releaseLine {}) := by
  apply complete_semicolon
  rw [releaseLine, String.toList_append, List.getLast?_append]
  rfl

namespace Settings

theorem complete_implementationOpening :
    ∀ line ∈ ({} : Settings).implementationOpening, Complete line := by
  have hLines : ∀ line ∈ ({} : Settings).implementationOpening,
      (C.replaceTrigraphs line.toList).getLast? ≠ some '\\' := by
    simp only [implementationOpening, List.map_cons, List.map_nil, List.cons_append,
      List.nil_append, List.forall_mem_cons, String.toList_append]
    repeat rw [String.toList_ofList]
    decide
  exact fun line hLine => ⟨hLines line hLine⟩

theorem complete_implementationLines (registry : Registry) :
    ∀ line ∈ ({} : Settings).implementationLines registry, Complete line := by
  intro line hLine
  simp only [implementationLines, unloadBody, List.mem_append, List.mem_cons, List.mem_map,
    List.not_mem_nil, or_false] at hLine
  rcases hLine with (((hLine | rfl | hLine) | rfl | rfl) | rfl | ⟨shader, hShader, rfl⟩ | rfl) | rfl
  · exact complete_implementationOpening line hLine
  · exact ⟨by decide⟩
  · rcases Text.mem_blocks hLine with rfl | ⟨block, hBlock, hMem⟩
    · exact ⟨by decide⟩
    · obtain ⟨shader, -, rfl⟩ := List.mem_map.mp hBlock
      exact shader.complete_loadLines line hMem
  · exact ⟨by decide⟩
  · exact ⟨by decide⟩
  · exact ⟨by decide⟩
  · exact shader.complete_releaseLine
  · exact ⟨by decide⟩
  · exact ⟨by decide⟩

theorem translated_implementation {registry : Registry} (h : registry.WellFormed) :
    Text.linesOf (C.translated (({} : Settings).artifacts registry).implementation) =
      (({} : Settings).implementationLines registry).map C.translated := by
  rw [artifacts_implementation,
    C.translated_lines h.isLine_implementationLines (complete_implementationLines registry)]
  refine Text.linesOf_lines fun line hLine => ?_
  obtain ⟨before, hBefore, rfl⟩ := List.mem_map.mp hLine
  exact C.isLine_translated (h.isLine_implementationLines before hBefore)

end Settings

/-! ## The line that compiles a program -/

namespace GeneralShader

/-- The line of the load routine that compiles the shader's program. -/
def compileLine (shader : GeneralShader) : String :=
  shader.loadStatement {} Indent.member .program

theorem compileLine_mem_implementationLines {registry : Registry} {shader : Shader}
    (hShader : shader ∈ registry.toList) :
    shader.expand.compileLine ∈ ({} : Settings).implementationLines registry := by
  have hBlock : shader.expand.compileLine ∈ shader.loadLines {} :=
    List.mem_append_left _ (List.mem_map_of_mem List.mem_cons_self)
  have hBody : shader.expand.compileLine ∈ ({} : Settings).loadBody registry :=
    Text.mem_blocks_of_mem (List.mem_map_of_mem hShader) hBlock
  simp [Settings.implementationLines, hBody]

variable {shader : GeneralShader}

/-- What stands in the line before the call. -/
def compileTarget (shader : GeneralShader) : String :=
  "   shaders." ++ shader.name ++ ".program ="

theorem toList_compileLine (shader : GeneralShader) :
    shader.compileLine.toList =
      shader.compileTarget.toList ++ ' ' :: ("gl_program_vert_frag".toList ++ '(' ::
        ((C.quote shader.vertexPath).toList ++ ',' :: ' ' ::
          ((C.quote shader.fragmentPath).toList ++ [')', ';']))) := by
  simp only [compileLine, compileTarget, loadStatement, call, Field.path, Field.programMember,
    Layout.place, Indent.member, String.toList_append]
  repeat rw [String.toList_ofList]
  simp only [List.append_assoc, List.cons_append, List.nil_append]

theorem WellFormed.not_mem_compileTarget (h : shader.WellFormed) {c : Char}
    (hPart : C.isIdentifierPart c = false) (hBefore : c ∉ "   shaders.".toList)
    (hAfter : c ∉ ".program =".toList) : c ∉ shader.compileTarget.toList := by
  rw [compileTarget, String.toList_append, String.toList_append, List.mem_append, List.mem_append,
    not_or, not_or]
  exact ⟨⟨hBefore, C.not_mem_of_isIdentifier h.name hPart⟩, hAfter⟩

/-- What the first phases of translation make of the line. -/
theorem WellFormed.toList_translated_compileLine (h : shader.WellFormed) :
    (C.translated shader.compileLine).toList =
      shader.compileTarget.toList ++ ' ' :: ("gl_program_vert_frag".toList ++ '(' ::
        '"' :: (C.replaceTrigraphs shader.vertexPath.toList ++ '"' :: ',' :: ' ' ::
          '"' :: (C.replaceTrigraphs shader.fragmentPath.toList ++ '"' :: ')' :: [';']))) := by
  have hMark : C.Separates '"' := ⟨by decide, by decide⟩
  have hLine : IsLine shader.compileLine :=
    (h.indented_loadStatement shader.program_mem_fields indented_member).isLine
  let opening := shader.compileTarget.toList ++ ' ' :: ("gl_program_vert_frag".toList ++ ['('])
  have hOpening : C.replaceTrigraphs opening = opening := by
    refine C.replaceTrigraphs_eq_self fun hTrigraph => ?_
    have hTarget : '?' ∉ shader.compileTarget.toList := h.not_mem_compileTarget rfl (by decide) (by decide)
    rcases List.mem_append.mp hTrigraph.mark_mem with hMem | hMem
    · exact hTarget hMem
    · exact absurd hMem (by decide)
  have hText : shader.compileLine.toList =
      opening ++ '"' :: (shader.vertexPath.toList ++ '"' :: ([',', ' '] ++
        '"' :: (shader.fragmentPath.toList ++ '"' :: [')', ';']))) := by
    simp [toList_compileLine, opening, C.quote, String.toList_append]
  -- The quotation marks separate the two paths from the rest, in which there are no trigraphs.
  rw [C.translated, String.toList_ofList, C.translate_eq_replaceTrigraphs hLine, hText,
    C.replaceTrigraphs_append hMark, C.replaceTrigraphs_append hMark,
    C.replaceTrigraphs_append hMark, C.replaceTrigraphs_append hMark, hOpening]
  simp [opening, C.replaceTrigraphs]

theorem WellFormed.passed?_compileLine_iff (h : shader.WellFormed) :
    C.passed? "gl_program_vert_frag" (C.translated shader.compileLine) =
        some ([shader.vertexPath.toUTF8.data.toList, shader.fragmentPath.toUTF8.data.toList], [';']) ↔
      ¬ C.HasTrigraph shader.vertexPath.toList ∧ ¬ C.HasTrigraph shader.fragmentPath.toList := by
  have hFunction : C.isIdentifier "gl_program_vert_frag" = true := by decide
  have hTarget : '(' ∉ shader.compileTarget.toList := h.not_mem_compileTarget rfl (by decide) (by decide)
  rw [C.passed?_call hFunction hTarget h.toList_translated_compileLine]
  exact C.readLiterals_pair_iff h.vertexPath h.fragmentPath (by simp; omega) [';']

/-- How a compiler of C99 finds the shader in the source file: its program is compiled in a line that is
read by itself, and that passes both paths as they are exactly if neither holds a trigraph. -/
structure CompiledIn (shader : GeneralShader) (text : String) : Prop where
  written : shader.compileLine ∈ Text.linesOf text
  read : C.translated shader.compileLine ∈ Text.linesOf (C.translated text)
  passes : C.passed? "gl_program_vert_frag" (C.translated shader.compileLine) =
      some ([shader.vertexPath.toUTF8.data.toList, shader.fragmentPath.toUTF8.data.toList], [';']) ↔
    ¬ C.HasTrigraph shader.vertexPath.toList ∧ ¬ C.HasTrigraph shader.fragmentPath.toList

end GeneralShader

/-! ## The source file -/

namespace Registry

theorem WellFormed.compiledIn {registry : Registry} {shader : Shader} (h : registry.WellFormed)
    (hShader : shader ∈ registry.toList) :
    shader.expand.CompiledIn (({} : Settings).artifacts registry).implementation := by
  have hLine := GeneralShader.compileLine_mem_implementationLines hShader
  refine ⟨?written, ?read, (h.shader shader hShader).passed?_compileLine_iff⟩
  case written => rwa [h.linesOf_implementation]
  case read =>
    rw [Settings.translated_implementation h]
    exact List.mem_map_of_mem hLine

/-- Between quotes an accepted path is one literal with the bytes of the path, whatever follows,
exactly if it holds no trigraph. In the code generated from an accepted registry the compiling
function gets both paths of a shader as they are exactly if that is so for both. -/
theorem sourcePaths_survive (path : String) (after : List Char) (registry : Registry) :
    (C.isQuotable path = true →
      (C.readLiteral (C.translate ((C.quote path).toList ++ after)) =
          some (path.toUTF8.data.toList, C.translate after) ↔ ¬ C.HasTrigraph path.toList)) ∧
      (registry.Accepted →
        ∃ artifacts, (({} : Settings).generate registry).result = .ok artifacts ∧
          ∀ shader ∈ registry.toList, shader.expand.CompiledIn artifacts.implementation) := by
  constructor
  · exact fun hPath => C.readLiteral_quote_iff hPath after
  · intro hAccepted
    have hWell := accepted_iff_wellFormed.mp hAccepted
    exact ⟨_, Settings.generate_default registry, fun shader hShader => hWell.compiledIn hShader⟩

theorem sourcePaths_survive_sample :
    C.isQuotable "tube.vert" = true ∧
      C.readLiteral (C.translate ((C.quote "tube.vert").toList ++ [','])) =
        some ("tube.vert".toUTF8.data.toList, C.translate [',']) ∧
      sample.Accepted ∧ ∃ artifacts, (({} : Settings).generate sample).result = .ok artifacts ∧
        ∀ shader ∈ sample.toList, shader.expand.compileLine ∈ Text.linesOf artifacts.implementation ∧
          C.passed? "gl_program_vert_frag" (C.translated shader.expand.compileLine) =
            some ([shader.expand.vertexPath.toUTF8.data.toList,
              shader.expand.fragmentPath.toUTF8.data.toList], [';']) := by
  have hMarks : ∀ shader ∈ sample.toList,
      '?' ∉ shader.expand.vertexPath.toList ∧ '?' ∉ shader.expand.fragmentPath.toList := by decide
  have hTube : '?' ∉ "tube.vert".toList := by decide
  obtain ⟨hLiteral, hRegistry⟩ := sourcePaths_survive "tube.vert" [','] sample
  obtain ⟨artifacts, hGenerated, hCompiled⟩ := hRegistry sample_accepted
  refine ⟨by decide, ?_, sample_accepted, artifacts, hGenerated, fun shader hShader => ?_⟩
  · exact (hLiteral (by decide)).mpr fun h => hTube h.mark_mem
  · obtain ⟨hVertex, hFragment⟩ := hMarks shader hShader
    refine ⟨(hCompiled shader hShader).written, (hCompiled shader hShader).passes.mpr ?_⟩
    exact ⟨fun h => hVertex h.mark_mem, fun h => hFragment h.mark_mem⟩

/-- A shader with a trigraph in its vertex path, which stands for a backslash. -/
def escaping : Registry := ofList [
  .general { name := "water", vertexPath := "shaders??/new.vert", fragmentPath := "water.frag" }]

/-- The check accepts the path, and a compiler reads an escape sequence in it. -/
theorem not_sourcePaths_survive :
    (¬∀ path, C.isQuotable path = true → ∀ after,
      C.readLiteral (C.translate ((C.quote path).toList ++ after)) =
        some (path.toUTF8.data.toList, C.translate after)) ∧
      ¬∀ registry : Registry, registry.Accepted → ∀ shader ∈ registry.toList,
        C.passed? "gl_program_vert_frag" (C.translated shader.expand.compileLine) =
          some ([shader.expand.vertexPath.toUTF8.data.toList,
            shader.expand.fragmentPath.toUTF8.data.toList], [';']) := by
  have hAccepted : escaping.Accepted := by
    rw [accepted_iff_issues]
    decide +kernel
  constructor
  · intro hSurvive
    have hRead := hSurvive "shaders??/new.vert" (by decide) []
    exact absurd hRead (by decide +kernel)
  · intro hPasses
    have hPassed := hPasses escaping hAccepted _ List.mem_cons_self
    exact absurd hPassed (by decide +kernel)

end Registry

end ShaderHandles
