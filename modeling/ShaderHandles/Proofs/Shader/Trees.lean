import ShaderHandles.Proofs.C.Syntax
import ShaderHandles.Proofs.Shader.Place

/-!
# Shaders as trees of C

With the default settings the lines that declare, load and release a well-formed shader are read as
the tokens of trees. A declaration line is a member, a line of the load routine is an assignment, and
the lines under the check of the capability are the body of that check.

* `GeneralShader.loadTree`, `GeneralShader.loadTrees`: the assignment of one field, and all
  statements of the load routine for a shader.
* `Shader.member`: the declaration in the container.
* `LinesScan`: lines one after the other are read as some tokens.
* `Shader.declaration_scan`, `Shader.loadLines_scan`, `Shader.releaseLine_scan`: the lines of a
  well-formed shader are read as the tokens of its trees.
-/

namespace ShaderHandles

open C (Scans LineScans spelled)

/-! ## Trees -/

namespace GeneralShader

def fieldPlace (shader : GeneralShader) (field : Field) : C.Place :=
  ⟨"shaders", shader.name :: field.names⟩

def programPlace (shader : GeneralShader) : C.Place := shader.fieldPlace .program

/-- The call that resolves a field. -/
def loadCall (shader : GeneralShader) : Field → C.Call
  | .program =>
    ⟨"gl_program_vert_frag", [.literal shader.vertexPath, .literal shader.fragmentPath]⟩
  | .vertexAttribute name => ⟨"glGetAttribLocation", [.place shader.programPlace, .literal name]⟩
  | .uniform name => ⟨"glGetUniformLocation", [.place shader.programPlace, .literal name]⟩
  | .selector group => stageCall "glGetSubroutineUniformLocation" group
  | .variant _ name => stageCall "glGetSubroutineIndex" name
where
  stageCall (function name : String) : C.Call :=
    ⟨function, [.place shader.programPlace, .place ⟨"GL_FRAGMENT_SHADER", []⟩, .literal name]⟩

def loadTree (shader : GeneralShader) (field : Field) : C.Statement :=
  .assign (shader.fieldPlace field) (shader.loadCall field)

def capabilityCall : C.Call := ⟨"gl_has", [.place ⟨"OPENGL_SUBROUTINES", []⟩]⟩

/-- The check of the capability, for a shader with groups. -/
def guardedTrees (shader : GeneralShader) : List C.Statement :=
  if shader.groups.isEmpty then []
  else [.check capabilityCall (shader.subroutineFields.map shader.loadTree)]

/-- All statements of the load routine for a shader. -/
def loadTrees (shader : GeneralShader) : List C.Statement :=
  shader.plainFields.map shader.loadTree ++ shader.guardedTrees

/-- The statement of the unload routine for a shader. -/
def releaseTree (shader : GeneralShader) : C.Statement :=
  .call ⟨"glDeleteProgram", [.place shader.programPlace]⟩

end GeneralShader

def handleMember (name : String) : C.Member := .typed "GLuint" name

def SubroutineGroup.member (group : SubroutineGroup) : C.Member :=
  .struct ((Field.selectorMember :: group.variants).map handleMember) group.name

/-- The members of a general shader's struct. -/
def GeneralShader.structMembers (shader : GeneralShader) : List C.Member :=
  (Field.programMember :: (shader.attributes ++ shader.uniforms)).map handleMember ++
    shader.groups.map SubroutineGroup.member

/-- The member of the container that holds a shader. -/
def Shader.member : Shader → C.Member
  | .general shader => .struct shader.structMembers shader.name
  | .simple shader => .typed "SimpleShader" shader.name

/-! ## Lines -/

/-- Lines one after the other are read as some tokens. -/
structure LinesScan (lines : List String) (found : List C.Token) : Prop where
  scans : Scans .start (Template.lines lines).toList found .start

namespace LinesScan

variable {line : String} {lines rest : List String} {found others : List C.Token}

theorem nil : LinesScan [] [] := ⟨.nil⟩

theorem append (hFirst : LinesScan lines found) (hSecond : LinesScan rest others) :
    LinesScan (lines ++ rest) (found ++ others) := by
  constructor
  rw [Template.lines_append, String.toList_append]
  exact hFirst.scans.append hSecond.scans

theorem one (hLine : LineScans line found) : LinesScan [line] found := by
  constructor
  rw [Template.lines_cons, Template.lines_nil, String.append_empty, String.toList_append]
  exact hLine

theorem cons (hLine : LineScans line found) (hRest : LinesScan rest others) :
    LinesScan (line :: rest) (found ++ others) :=
  (one hLine).append hRest

theorem flatMap {α : Type} {items : List α} {written : α → List String}
    {read : α → List C.Token} (hItems : ∀ item ∈ items, LinesScan (written item) (read item)) :
    LinesScan (items.flatMap written) (items.flatMap read) := by
  induction items with
  | nil => exact nil
  | cons item others ih =>
    rw [List.flatMap_cons, List.flatMap_cons]
    exact (hItems item List.mem_cons_self).append
      (ih fun other hOther => hItems other (List.mem_cons_of_mem item hOther))

theorem map {α : Type} {items : List α} {written : α → String} {read : α → List C.Token}
    (hItems : ∀ item ∈ items, LineScans (written item) (read item)) :
    LinesScan (items.map written) (items.flatMap read) := by
  rw [List.map_eq_flatMap]
  exact flatMap fun item hItem => one (hItems item hItem)

theorem tokens (hLines : LinesScan lines found) : C.tokens (Template.lines lines) = some found := by
  rw [C.tokens, hLines.scans.result, Option.bind_some]
  exact if_pos rfl

end LinesScan

/-! ## Names and places -/

/-- The blanks at the start of a line leave it at its start. -/
def Blanks (indent : String) : Prop := Scans .start indent.toList [] .start

theorem blanks_member : Blanks Indent.member := by
  rw [Blanks, Indent.member, String.toList_ofList]
  exact ⟨rfl⟩

theorem blanks_field : Blanks Indent.field := by
  rw [Blanks, Indent.field, String.toList_ofList]
  exact ⟨rfl⟩

theorem blanks_nested : Blanks Indent.nested := by
  rw [Blanks, Indent.nested, String.toList_ofList]
  exact ⟨rfl⟩

/-- Names joined by dots are read as a place if no part of a word follows them. -/
theorem dotted_scan {line : C.Line} {root : String} {members : List String} {c : Char}
    {rest : List Char} {others : List C.Token} {last : C.Scanner}
    (hNames : ∀ name ∈ root :: members, C.isIdentifier name = true)
    (hLine : line.after (.name root) = .code) (hc : C.isIdentifierPart c = false)
    (hRest : Scans .code (c :: rest) others last) :
    Scans ⟨.blank, line⟩ ((dotted (root :: members)).toList ++ c :: rest)
      (C.Place.tokens ⟨root, members⟩ ++ others) last := by
  induction members generalizing root line with
  | nil =>
    have hRoot := hNames root List.mem_cons_self
    rw [dotted_singleton]
    exact .name hRoot hLine hc hRest
  | cons member members ih =>
    have hRoot := hNames root List.mem_cons_self
    have hMembers : Scans ⟨.blank, .code⟩ ((dotted (member :: members)).toList ++ c :: rest)
        (C.Place.tokens ⟨member, members⟩ ++ others) last :=
      ih (fun name hName => hNames name (List.mem_cons_of_mem root hName)) rfl
    have hDot : Scans .code ['.'] [.mark '.'] .code := .one rfl
    have hTail : Scans .code ('.' :: ((dotted (member :: members)).toList ++ c :: rest))
        ([.mark '.'] ++ (C.Place.tokens ⟨member, members⟩ ++ others)) last := hDot.append hMembers
    have hText : (dotted (root :: member :: members)).toList ++ c :: rest =
        root.toList ++ '.' :: ((dotted (member :: members)).toList ++ c :: rest) := by
      rw [dotted_cons root (List.cons_ne_nil member members)]
      simp
    rw [hText]
    exact .name hRoot hLine rfl hTail

theorem place_eq_dotted (shader : GeneralShader) (field : Field) :
    ({} : Layout).place shader.name field.path =
      dotted ("shaders" :: shader.name :: field.names) := by
  rw [dotted_cons _ (List.cons_ne_nil _ _), dotted_cons _ field.names_ne_nil, field.dotted_names]
  simp only [Layout.place, String.append_assoc]

namespace GeneralShader.WellFormed

variable {shader : GeneralShader} {field : Field}

theorem isIdentifier_of_mem_place (h : shader.WellFormed) (hField : field ∈ shader.fields) :
    ∀ name ∈ "shaders" :: shader.name :: field.names, C.isIdentifier name = true := by
  intro name hName
  simp only [List.mem_cons] at hName
  rcases hName with rfl | rfl | hName
  · decide
  · exact h.name
  · exact h.isIdentifier_of_mem_names hField name hName

/-- The place of a field is read as its tree. -/
theorem place_scan {line : C.Line} {c : Char} {rest : List Char} {others : List C.Token}
    {last : C.Scanner} (h : shader.WellFormed) (hField : field ∈ shader.fields)
    (hLine : line.after (.name "shaders") = .code) (hc : C.isIdentifierPart c = false)
    (hRest : Scans .code (c :: rest) others last) :
    Scans ⟨.blank, line⟩ ((({} : Layout).place shader.name field.path).toList ++ c :: rest)
      ((shader.fieldPlace field).tokens ++ others) last := by
  rw [place_eq_dotted]
  exact dotted_scan (h.isIdentifier_of_mem_place hField) hLine hc hRest

theorem program_scan {c : Char} {rest : List Char} {others : List C.Token} {last : C.Scanner}
    (h : shader.WellFormed) (hc : C.isIdentifierPart c = false)
    (hRest : Scans .code (c :: rest) others last) :
    Scans .code ((({} : Layout).programOf shader.name).toList ++ c :: rest)
      (shader.programPlace.tokens ++ others) last := by
  have hLine : C.Line.code.after (.name "shaders") = .code := rfl
  rw [Layout.programOf_eq]
  exact h.place_scan shader.program_mem_fields hLine hc hRest

/-! ## Calls -/

/-- A call is its function and its arguments between parentheses. -/
theorem call_scan {function : String} {inner : List Char} {found : List C.Token}
    (hFunction : C.isIdentifier function = true) (hInner : Scans .code inner found .code) :
    Scans .code (function.toList ++ '(' :: (inner ++ [')'])) (.name function :: C.wrap found) .code := by
  have hOpen : Scans .code ['('] [.mark '('] .code := .one rfl
  have hClose : Scans .code [')'] [.mark ')'] .code := .one rfl
  exact .name hFunction rfl rfl (hOpen.append (hInner.append hClose))

theorem comma_scan : Scans .code [',', ' '] [.mark ','] .code := ⟨rfl⟩

theorem compile_scan (h : shader.WellFormed) :
    Scans .code (shader.call {} .program).toList (shader.loadCall .program).tokens .code := by
  have hInner := (C.Scans.literal h.vertexPath).append
    (comma_scan.append (C.Scans.literal h.fragmentPath))
  have hFunction : C.isIdentifier "gl_program_vert_frag" = true := by decide
  refine (call_scan hFunction hInner).congr ?_ rfl
  simp only [call, String.toList_append]
  repeat rw [String.toList_ofList]
  simp only [List.append_assoc, List.cons_append, List.nil_append]

theorem lookup_scan {function name : String} (h : shader.WellFormed)
    (hFunction : C.isIdentifier function = true) (hName : C.isIdentifier name = true) :
    Scans .code (call.lookup {} shader function name).toList
      (C.Call.tokens ⟨function, [.place shader.programPlace, .literal name]⟩) .code := by
  have hLiteral : Scans .code (',' :: ' ' :: (C.quote name).toList)
      [.mark ',', .literal name] .code :=
    comma_scan.append (C.Scans.literal (C.isQuotable_of_isIdentifier hName))
  have hInner := h.program_scan rfl hLiteral
  refine (call_scan hFunction hInner).congr ?_ rfl
  simp only [call.lookup, String.toList_append]
  repeat rw [String.toList_ofList]
  simp only [List.append_assoc, List.cons_append, List.nil_append]

theorem stageLookup_scan {function name : String} (h : shader.WellFormed)
    (hFunction : C.isIdentifier function = true) (hName : C.isIdentifier name = true) :
    Scans .code (call.stageLookup {} shader function name).toList
      (loadCall.stageCall shader function name).tokens .code := by
  have hBlank : Scans .code [' '] [] .code := .one rfl
  have hLiteral := (C.Scans.literal (C.isQuotable_of_isIdentifier hName)).append hBlank
  have hStageName : Scans .code (',' :: " GL_FRAGMENT_SHADER, ".toList)
      [.mark ',', .name "GL_FRAGMENT_SHADER", .mark ','] .code := by
    rw [String.toList_ofList]
    exact ⟨rfl⟩
  have hStage : Scans .code
      (',' :: (" GL_FRAGMENT_SHADER, ".toList ++ ((C.quote name).toList ++ [' '])))
      [.mark ',', .name "GL_FRAGMENT_SHADER", .mark ',', .literal name] .code :=
    hStageName.append hLiteral
  have hInner := hBlank.append (h.program_scan rfl hStage)
  refine (call_scan hFunction hInner).congr ?_ rfl
  simp only [call.stageLookup, String.toList_append]
  repeat rw [String.toList_ofList]
  simp only [List.append_assoc, List.cons_append, List.nil_append]

theorem loadCall_scan (h : shader.WellFormed) (hField : field ∈ shader.fields) :
    Scans .code (shader.call {} field).toList (shader.loadCall field).tokens .code := by
  have hNames := h.isIdentifier_of_mem_names hField
  cases field with
  | program => exact h.compile_scan
  | vertexAttribute name =>
    have hFunction : C.isIdentifier "glGetAttribLocation" = true := by decide
    exact h.lookup_scan hFunction (hNames name (by simp [Field.names]))
  | uniform name =>
    have hFunction : C.isIdentifier "glGetUniformLocation" = true := by decide
    exact h.lookup_scan hFunction (hNames name (by simp [Field.names]))
  | selector group =>
    have hFunction : C.isIdentifier "glGetSubroutineUniformLocation" = true := by decide
    exact h.stageLookup_scan hFunction (hNames group (by simp [Field.names]))
  | variant group name =>
    have hFunction : C.isIdentifier "glGetSubroutineIndex" = true := by decide
    exact h.stageLookup_scan hFunction (hNames name (by simp [Field.names]))

/-! ## Lines -/

theorem checkOpening_scan :
    LineScans (Indent.member ++ "if (" ++ ({} : Settings).api.hasCapability ++ "( " ++
      ({} : Settings).api.subroutineCapability ++ " )) \x7b") capabilityCall.checkSentence.tokens := by
  unfold LineScans
  simp only [Indent.member, String.toList_append]
  repeat rw [String.toList_ofList]
  exact ⟨rfl⟩

theorem checkClosing_scan : LineScans (Indent.member ++ "\x7d") [.closing] := by
  unfold LineScans
  simp only [Indent.member, String.toList_append]
  repeat rw [String.toList_ofList]
  exact ⟨rfl⟩

/-- The line that resolves a field is read as an assignment. -/
theorem loadStatement_scan {indent : String} (h : shader.WellFormed) (hField : field ∈ shader.fields)
    (hIndent : Blanks indent) :
    LineScans (shader.loadStatement {} indent field) (spelled (shader.loadTree field).sentences) := by
  have hEqual : Scans .code [' ', '=', ' '] [.mark '='] .code := ⟨rfl⟩
  have hEnd : Scans .code [';', '\n'] [.mark ';'] .start := ⟨rfl⟩
  have hCall : Scans .code (' ' :: '=' :: ' ' :: ((shader.call {} field).toList ++ [';', '\n']))
      (.mark '=' :: ((shader.loadCall field).tokens ++ [.mark ';'])) .start :=
    hEqual.append ((h.loadCall_scan hField).append hEnd)
  have hLine : C.Line.start.after (.name "shaders") = .code := rfl
  have hTarget := h.place_scan hField hLine rfl hCall
  refine (hIndent.append hTarget).congr ?_ ?_
  · simp only [loadStatement, String.toList_append]
    repeat rw [String.toList_ofList]
    simp only [List.append_assoc, List.cons_append, List.nil_append]
  · simp [loadTree, C.Statement.sentences, C.Sentence.tokens]

theorem guardedLines_scan (h : shader.WellFormed) :
    LinesScan (shader.guardedLines {}) (spelled (C.bodySentences shader.guardedTrees)) := by
  unfold GeneralShader.guardedLines GeneralShader.guardedTrees
  split
  · exact .nil
  · have hBody : LinesScan (shader.subroutineFields.map (shader.loadStatement {} Indent.field))
        (shader.subroutineFields.flatMap fun field => spelled (shader.loadTree field).sentences) :=
      .map fun field hField => h.loadStatement_scan (List.mem_append_right _ hField) blanks_field
    have hAll := (LinesScan.cons checkOpening_scan hBody).append (.one checkClosing_scan)
    have hTokens : spelled (C.bodySentences
        [.check capabilityCall (shader.subroutineFields.map shader.loadTree)]) =
        capabilityCall.checkSentence.tokens ++ (shader.subroutineFields.flatMap fun field =>
          spelled (shader.loadTree field).sentences) ++ [.closing] := by
      rw [C.spelled_bodySentences, List.flatMap_singleton, C.Statement.sentences, C.spelled_cons,
        C.spelled_append, C.spelled_bodySentences, List.flatMap_map, ← List.append_assoc]
      rfl
    rwa [hTokens]

/-- The lines of the load routine for a shader are read as its statements. -/
theorem loadLines_scan (h : shader.WellFormed) :
    LinesScan (shader.loadLines {}) (spelled (C.bodySentences shader.loadTrees)) := by
  have hPlain : LinesScan (shader.plainFields.map (shader.loadStatement {} Indent.member))
      (shader.plainFields.flatMap fun field => spelled (shader.loadTree field).sentences) :=
    .map fun field hField => h.loadStatement_scan (List.mem_append_left _ hField) blanks_member
  rw [GeneralShader.loadLines, loadTrees, C.bodySentences_append, C.spelled_append,
    C.spelled_bodySentences, List.flatMap_map]
  exact hPlain.append h.guardedLines_scan

/-- The line of the unload routine for a shader is read as a call. -/
theorem releaseLine_scan (h : shader.WellFormed) :
    LineScans (Indent.member ++ ({} : Settings).api.deleteProgram ++ "(" ++
      ({} : Settings).layout.programOf shader.name ++ ");") (spelled shader.releaseTree.sentences) := by
  have hOpen : Scans .start "   glDeleteProgram(".toList [.name "glDeleteProgram", .mark '('] .code := by
    rw [String.toList_ofList]
    exact ⟨rfl⟩
  have hEnd : Scans .code [')', ';', '\n'] [.mark ')', .mark ';'] .start := ⟨rfl⟩
  refine (hOpen.append (h.program_scan rfl hEnd)).congr ?_ ?_
  · simp only [Indent.member, String.toList_append]
    repeat rw [String.toList_ofList]
    simp only [List.append_assoc, List.cons_append, List.nil_append]
  · simp [releaseTree, C.Statement.sentences, C.Sentence.tokens, C.Call.tokens, C.wrap,
      C.argumentTokens, C.Argument.tokens]

end GeneralShader.WellFormed

/-! ## Declarations -/

theorem handleDeclaration_scan {indent name : String} (hName : C.isIdentifier name = true)
    (hIndent : Blanks indent) :
    LineScans (({} : Api).handleDeclaration indent name) (spelled (handleMember name).sentences) := by
  have hType : Scans .start "GLuint ".toList [.name "GLuint"] .code := by
    rw [String.toList_ofList]
    exact ⟨rfl⟩
  have hEnd : Scans .code [';', '\n'] [.mark ';'] .start := ⟨rfl⟩
  have hLine : C.Line.code.after (.name name) = .code := rfl
  refine (hIndent.append (hType.append (.name hName hLine rfl hEnd))).congr ?_ rfl
  simp only [Api.handleDeclaration, String.toList_append]
  repeat rw [String.toList_ofList]
  simp only [List.append_assoc, List.cons_append, List.nil_append]

theorem structOpening_scan {indent : String} (hIndent : Blanks indent) :
    LineScans (indent ++ "struct \x7b") [.keyword "struct", .opening] := by
  have hKeyword : Scans .start "struct \x7b\n".toList [.keyword "struct", .opening] .start := by
    rw [String.toList_ofList]
    exact ⟨rfl⟩
  refine (hIndent.append hKeyword).congr ?_ rfl
  rw [String.toList_append]
  repeat rw [String.toList_ofList]
  simp only [List.append_assoc, List.cons_append, List.nil_append]

theorem structClosing_scan {indent name : String} (hName : C.isIdentifier name = true)
    (hIndent : Blanks indent) :
    LineScans (indent ++ "\x7d " ++ name ++ ";") [.closing, .name name, .semicolon] := by
  have hBrace : Scans .start ['\x7d', ' '] [.closing] .code := ⟨rfl⟩
  have hEnd : Scans .code [';', '\n'] [.mark ';'] .start := ⟨rfl⟩
  have hLine : C.Line.code.after (.name name) = .code := rfl
  refine (hIndent.append (hBrace.append (.name hName hLine rfl hEnd))).congr ?_ rfl
  simp only [String.toList_append]
  repeat rw [String.toList_ofList]
  simp only [List.append_assoc, List.cons_append, List.nil_append]

/-- The lines of a struct are read as a member if the lines inside are read as its members. -/
theorem struct_scan {indent name : String} {inner : List String} {members : List C.Member}
    (hName : C.isIdentifier name = true) (hIndent : Blanks indent)
    (hInner : LinesScan inner (spelled (C.memberSentences members))) :
    LinesScan ((indent ++ "struct \x7b") :: inner ++ [indent ++ "\x7d " ++ name ++ ";"])
      (spelled (C.Member.struct members name).sentences) := by
  have hAll := (LinesScan.cons (structOpening_scan hIndent) hInner).append
    (.one (structClosing_scan hName hIndent))
  have hTokens : spelled (C.Member.struct members name).sentences =
      [.keyword "struct", .opening] ++ spelled (C.memberSentences members) ++
        [.closing, .name name, .semicolon] := by
    simp [C.Member.sentences, C.spelled_append, C.Sentence.tokens]
  rwa [hTokens]

theorem sharedDeclaration_scan {name : String} (hName : C.isIdentifier name = true) :
    LineScans (Indent.member ++ ({} : Settings).layout.simpleType ++ " " ++ name ++ ";")
      (spelled (C.Member.typed "SimpleShader" name).sentences) := by
  have hType : Scans .start "   SimpleShader ".toList [.name "SimpleShader"] .code := by
    rw [String.toList_ofList]
    exact ⟨rfl⟩
  have hEnd : Scans .code [';', '\n'] [.mark ';'] .start := ⟨rfl⟩
  have hLine : C.Line.code.after (.name name) = .code := rfl
  refine (hType.append (.name hName hLine rfl hEnd)).congr ?_ rfl
  simp only [Indent.member, String.toList_append]
  repeat rw [String.toList_ofList]
  simp only [List.append_assoc, List.cons_append, List.nil_append]

namespace GeneralShader.WellFormed

variable {shader : GeneralShader}

theorem group_scan {group : SubroutineGroup} (h : shader.WellFormed) (hGroup : group ∈ shader.groups) :
    LinesScan (group.declaration {}) (spelled group.member.sentences) := by
  have hInner : LinesScan
      ((Field.selectorMember :: group.variants).map (({} : Api).handleDeclaration Indent.nested))
      (spelled (C.memberSentences ((Field.selectorMember :: group.variants).map handleMember))) := by
    rw [C.spelled_memberSentences, List.flatMap_map]
    exact .map fun name hName =>
      handleDeclaration_scan (h.isIdentifier_of_mem_group hGroup name hName) blanks_nested
  exact struct_scan (h.isIdentifier_groupName hGroup) blanks_field hInner

theorem declaration_scan (h : shader.WellFormed) :
    LinesScan (shader.declaration {})
      (spelled (C.Member.struct shader.structMembers shader.name).sentences) := by
  have hPlain : LinesScan ((Field.programMember :: (shader.attributes ++ shader.uniforms)).map
        (({} : Api).handleDeclaration Indent.field))
      ((Field.programMember :: (shader.attributes ++ shader.uniforms)).flatMap
        fun name => spelled (handleMember name).sentences) :=
    .map fun name hName =>
      handleDeclaration_scan (h.isIdentifier_of_mem_plain name hName) blanks_field
  have hGroups : LinesScan (shader.groups.flatMap (SubroutineGroup.declaration {}))
      (shader.groups.flatMap fun group => spelled group.member.sentences) :=
    .flatMap fun group hGroup => h.group_scan hGroup
  have hInner : LinesScan
      ((Field.programMember :: (shader.attributes ++ shader.uniforms)).map
          (({} : Api).handleDeclaration Indent.field) ++
        shader.groups.flatMap (SubroutineGroup.declaration {}))
      (spelled (C.memberSentences shader.structMembers)) := by
    rw [C.spelled_memberSentences, structMembers, List.flatMap_append, List.flatMap_map,
      List.flatMap_map]
    exact hPlain.append hGroups
  have hAll := struct_scan h.name blanks_member hInner
  rwa [← List.cons_append] at hAll

end GeneralShader.WellFormed

/-- The lines that declare a well-formed shader are read as a member of the container. -/
theorem Shader.declaration_scan {shader : Shader} (h : shader.expand.WellFormed) :
    LinesScan (shader.declaration {}) (spelled shader.member.sentences) := by
  cases shader with
  | general shader => exact h.declaration_scan
  | simple shader => exact .one (sharedDeclaration_scan h.name)

end ShaderHandles
