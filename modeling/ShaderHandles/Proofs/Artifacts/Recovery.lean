import ShaderHandles.Proofs.Artifacts.Separator
import ShaderHandles.Proofs.Artifacts.Units
import ShaderHandles.Proofs.C.Scope

/-!
# The artifacts determine the registry

With the default settings a well-formed registry can be read back from its two texts. The header has
the names, the kinds and the groups of the shaders; the source paths, and which members are
attributes and which are uniforms, are in the calls of the load routine. The two texts in turn can
be told apart in the bytes that the fingerprint is made of: no token begins with the zero character
between them.

* `Artifacts.recover`: the registry that a pair of texts was generated from.
* `Registry.WellFormed.recover_artifacts`: it is found again.
* `Artifacts.eq_of_fingerprintInput`: two pairs with the same bytes are the same if their headers
  have tokens.
* `Registry.artifacts_determine`: accepted registries with the same artifacts are the same.
-/

namespace ShaderHandles

/-! ## Assignments -/

namespace C

structure Assignment where
  target : Place
  call : Call

def Statement.assignment? : Statement → Option Assignment
  | .assign place value => some ⟨place, value⟩
  | _ => none

/-- The assignments of a routine outside of its checks. -/
def assignments (body : List Statement) : List Assignment := body.filterMap Statement.assignment?

/-- The assignments below one member of the variable. -/
def assignmentsTo (member : String) (found : List Assignment) : List Assignment :=
  found.filter fun assignment => assignment.target.members.head? = some member

def Argument.literal? : Argument → Option String
  | .literal text => some text
  | _ => none

/-- The literals that a function is called with, in order. -/
def literalsTo (function : String) (found : List Assignment) : List String :=
  (found.filter fun assignment => assignment.call.function = function).flatMap fun assignment =>
    assignment.call.arguments.filterMap Argument.literal?

section

variable {function member : String} {first second found : List Assignment}

theorem assignmentsTo_append :
    assignmentsTo member (first ++ second) =
      assignmentsTo member first ++ assignmentsTo member second :=
  List.filter_append first second

theorem assignmentsTo_eq_self
    (h : ∀ assignment ∈ found, assignment.target.members.head? = some member) :
    assignmentsTo member found = found :=
  List.filter_eq_self.mpr fun assignment hMem => decide_eq_true (h assignment hMem)

theorem assignmentsTo_eq_nil
    (h : ∀ assignment ∈ found, assignment.target.members.head? ≠ some member) :
    assignmentsTo member found = [] :=
  List.filter_eq_nil_iff.mpr fun assignment hMem => by simpa using h assignment hMem

theorem literalsTo_append :
    literalsTo function (first ++ second) =
      literalsTo function first ++ literalsTo function second := by
  rw [literalsTo, List.filter_append, List.flatMap_append]
  rfl

theorem literalsTo_eq_nil (h : ∀ assignment ∈ found, assignment.call.function ≠ function) :
    literalsTo function found = [] := by
  have hNone : (found.filter fun assignment => assignment.call.function = function) = [] :=
    List.filter_eq_nil_iff.mpr fun assignment hMem => by simpa using h assignment hMem
  rw [literalsTo, hNone, List.flatMap_nil]

/-- Calls of one function with a literal each. -/
theorem literalsTo_map {names : List String} {written : String → Assignment}
    (hFunction : ∀ name, (written name).call.function = function)
    (hLiterals : ∀ name, (written name).call.arguments.filterMap Argument.literal? = [name]) :
    literalsTo function (names.map written) = names := by
  have hAll : ((names.map written).filter fun assignment => assignment.call.function = function) =
      names.map written :=
    List.filter_eq_self.mpr fun assignment hMem => by
      obtain ⟨name, -, rfl⟩ := List.mem_map.mp hMem
      exact decide_eq_true (hFunction name)
  rw [literalsTo, hAll, List.flatMap_map, funext hLiterals, List.flatMap_singleton']

end

end C

/-! ## Reading a registry back -/

/-- The group that an inline struct declares, whose first member is the selector. -/
def recoverGroup? : C.Member → Option SubroutineGroup
  | .struct (_ :: variants) name => some ⟨name, variants.map C.Member.name⟩
  | _ => none

/-- The shader that a member of the container holds, by the assignments of the load routine. -/
def recoverShader? (found : List C.Assignment) : C.Member → Option Shader
  | .struct members name =>
    let block := C.assignmentsTo name found
    match C.literalsTo "gl_program_vert_frag" block with
    | [vertexPath, fragmentPath] => some <| .general {
        name, vertexPath, fragmentPath
        attributes := C.literalsTo "glGetAttribLocation" block
        uniforms := C.literalsTo "glGetUniformLocation" block
        groups := members.filterMap recoverGroup? }
    | _ => none
  | .typed _ name =>
    match C.literalsTo "gl_program_vert_frag" (C.assignmentsTo name found) with
    | [_, fragmentPath] => some (.simple { name, fragmentPath })
    | _ => none

/-- The registry that a pair of texts was generated from. -/
def Artifacts.recover (artifacts : Artifacts) : Option Registry := do
  let header ← C.readHeader artifacts.interface
  let source ← C.readSource artifacts.implementation
  let found := C.assignments source.load.body
  return .ofList (← header.container.members.mapM (recoverShader? found))

/-! ## One shader -/

namespace GeneralShader

variable (shader : GeneralShader)

def assignment (field : Field) : C.Assignment := ⟨shader.fieldPlace field, shader.loadCall field⟩

theorem assignments_loadTrees :
    C.assignments shader.loadTrees = shader.plainFields.map shader.assignment := by
  have hGuarded : shader.guardedTrees.filterMap C.Statement.assignment? = [] := by
    unfold guardedTrees
    split <;> rfl
  rw [C.assignments, loadTrees, List.filterMap_append, hGuarded, List.append_nil,
    List.filterMap_map, ← List.filterMap_eq_map]
  rfl

theorem literalsTo_compile :
    C.literalsTo "gl_program_vert_frag" (shader.plainFields.map shader.assignment) =
      [shader.vertexPath, shader.fragmentPath] := by
  have hLookups : C.literalsTo "gl_program_vert_frag"
      ((shader.attributes.map Field.vertexAttribute ++ shader.uniforms.map Field.uniform).map
        shader.assignment) = [] := by
    apply C.literalsTo_eq_nil
    intro assignment hMem
    simp only [List.map_append, List.map_map, List.mem_append, List.mem_map] at hMem
    rcases hMem with ⟨name, -, rfl⟩ | ⟨name, -, rfl⟩ <;> simp [GeneralShader.assignment, loadCall]
  have hFields : shader.plainFields.map shader.assignment =
      [shader.assignment .program] ++ (shader.attributes.map Field.vertexAttribute ++
        shader.uniforms.map Field.uniform).map shader.assignment := rfl
  rw [hFields, C.literalsTo_append, hLookups, List.append_nil]
  rfl

/-- Of the plain fields of a shader one kind is looked up by each function. -/
theorem literalsTo_lookups {function : String} (hCompile : function ≠ "gl_program_vert_frag") :
    C.literalsTo function (shader.plainFields.map shader.assignment) =
      C.literalsTo function
          (shader.attributes.map fun name => shader.assignment (.vertexAttribute name)) ++
        C.literalsTo function
          (shader.uniforms.map fun name => shader.assignment (.uniform name)) := by
  have hProgram : C.literalsTo function [shader.assignment .program] = [] := by
    apply C.literalsTo_eq_nil
    simpa [GeneralShader.assignment, loadCall] using hCompile.symm
  have hFields : shader.plainFields.map shader.assignment =
      [shader.assignment .program] ++
        ((shader.attributes.map fun name => shader.assignment (.vertexAttribute name)) ++
          shader.uniforms.map fun name => shader.assignment (.uniform name)) := by
    simp [plainFields, Function.comp_def]
  rw [hFields, C.literalsTo_append, hProgram, List.nil_append, C.literalsTo_append]

theorem literalsTo_attributes :
    C.literalsTo "glGetAttribLocation" (shader.plainFields.map shader.assignment) =
      shader.attributes := by
  have hUniforms : C.literalsTo "glGetAttribLocation"
      (shader.uniforms.map fun name => shader.assignment (.uniform name)) = [] := by
    apply C.literalsTo_eq_nil
    intro assignment hMem
    obtain ⟨name, -, rfl⟩ := List.mem_map.mp hMem
    simp [GeneralShader.assignment, loadCall]
  rw [literalsTo_lookups shader (by decide), hUniforms, List.append_nil]
  exact C.literalsTo_map (fun _ => rfl) fun _ => rfl

theorem literalsTo_uniforms :
    C.literalsTo "glGetUniformLocation" (shader.plainFields.map shader.assignment) =
      shader.uniforms := by
  have hAttributes : C.literalsTo "glGetUniformLocation"
      (shader.attributes.map fun name => shader.assignment (.vertexAttribute name)) = [] := by
    apply C.literalsTo_eq_nil
    intro assignment hMem
    obtain ⟨name, -, rfl⟩ := List.mem_map.mp hMem
    simp [GeneralShader.assignment, loadCall]
  rw [literalsTo_lookups shader (by decide), hAttributes, List.nil_append]
  exact C.literalsTo_map (fun _ => rfl) fun _ => rfl

theorem filterMap_recoverGroup? : shader.structMembers.filterMap recoverGroup? = shader.groups := by
  have hGroup (group : SubroutineGroup) : recoverGroup? group.member = some group := by
    simp [SubroutineGroup.member, recoverGroup?, Function.comp_def, handleMember, C.Member.name]
  have hPlain (names : List String) : (names.map handleMember).filterMap recoverGroup? = [] := by
    rw [List.filterMap_map]
    exact List.filterMap_eq_nil_iff.mpr fun _ _ => rfl
  rw [structMembers, List.filterMap_append, hPlain, List.nil_append, List.filterMap_map]
  simp [hGroup]

end GeneralShader

/-! ## The registry -/

theorem recoverShader?_member (shader : Shader) {found : List C.Assignment}
    (hBlock : C.assignmentsTo shader.name found =
      shader.expand.plainFields.map shader.expand.assignment) :
    recoverShader? found shader.member = some shader := by
  cases shader with
  | general shader =>
    have hBlock : C.assignmentsTo shader.name found =
        shader.plainFields.map shader.assignment := hBlock
    simp only [Shader.member, recoverShader?, hBlock, shader.literalsTo_compile,
      shader.literalsTo_attributes, shader.literalsTo_uniforms, shader.filterMap_recoverGroup?]
  | simple shader =>
    have hBlock : C.assignmentsTo shader.name found =
        shader.expand.plainFields.map shader.expand.assignment := hBlock
    simp only [Shader.member, recoverShader?, hBlock, shader.expand.literalsTo_compile]
    rfl

/-- The assignments of each shader are found by its name. -/
theorem assignmentsTo_of_mem {shaders : List Shader} (hNames : (shaders.map Shader.name).Nodup)
    {shader : Shader} (hShader : shader ∈ shaders) :
    C.assignmentsTo shader.name (shaders.flatMap fun other =>
      other.expand.plainFields.map other.expand.assignment) =
        shader.expand.plainFields.map shader.expand.assignment := by
  have hMember (other : Shader) :
      ∀ assignment ∈ other.expand.plainFields.map other.expand.assignment,
        assignment.target.members.head? = some other.name := by
    intro assignment hMem
    obtain ⟨field, -, rfl⟩ := List.mem_map.mp hMem
    rw [← other.expand_name]
    rfl
  induction shaders with
  | nil => exact absurd hShader List.not_mem_nil
  | cons first rest ih =>
    obtain ⟨hFirst, hRest⟩ := List.nodup_cons.mp hNames
    rw [List.flatMap_cons, C.assignmentsTo_append]
    rcases List.mem_cons.mp hShader with rfl | hShader
    · have hOthers : C.assignmentsTo shader.name (rest.flatMap fun other =>
          other.expand.plainFields.map other.expand.assignment) = [] := by
        apply C.assignmentsTo_eq_nil
        intro assignment hMem hHead
        obtain ⟨other, hOther, hMem⟩ := List.mem_flatMap.mp hMem
        rw [hMember other assignment hMem, Option.some.injEq] at hHead
        exact hFirst (List.mem_map.mpr ⟨other, hOther, hHead⟩)
      rw [C.assignmentsTo_eq_self (hMember shader), hOthers, List.append_nil]
    · have hNone : C.assignmentsTo shader.name
          (first.expand.plainFields.map first.expand.assignment) = [] := by
        apply C.assignmentsTo_eq_nil
        intro assignment hMem hHead
        rw [hMember first assignment hMem, Option.some.injEq] at hHead
        exact hFirst (hHead ▸ List.mem_map_of_mem hShader)
      rw [hNone, List.nil_append, ih hRest hShader]

namespace Registry

theorem assignments_loadTrees (registry : Registry) :
    C.assignments registry.loadTrees = registry.toList.flatMap fun shader =>
      shader.expand.plainFields.map shader.expand.assignment := by
  rw [C.assignments, loadTrees, List.filterMap_flatMap]
  exact List.flatMap_congr fun shader _ => shader.expand.assignments_loadTrees

theorem mapM_recoverShader? {found : List C.Assignment} {shaders : List Shader}
    (h : ∀ shader ∈ shaders, recoverShader? found shader.member = some shader) :
    (shaders.map Shader.member).mapM (recoverShader? found) = some shaders := by
  induction shaders with
  | nil => rfl
  | cons shader rest ih =>
    rw [List.map_cons, List.mapM_cons, h shader List.mem_cons_self,
      ih fun other hOther => h other (List.mem_cons_of_mem shader hOther)]
    rfl

/-- A well-formed registry is read back from its artifacts. -/
theorem WellFormed.recover_artifacts {registry : Registry} (h : registry.WellFormed) :
    (({} : Settings).artifacts registry).recover = some registry := by
  have hBody : C.assignments registry.source.load.body = registry.toList.flatMap fun shader =>
      shader.expand.plainFields.map shader.expand.assignment := registry.assignments_loadTrees
  have hShaders : registry.header.container.members.mapM
      (recoverShader? (C.assignments registry.source.load.body)) = some registry.toList := by
    rw [hBody]
    exact mapM_recoverShader? fun shader hShader =>
      recoverShader?_member shader (assignmentsTo_of_mem h.names_nodup hShader)
  simp only [Artifacts.recover, h.readHeader_eq, h.readSource_eq, Option.bind_eq_bind,
    Option.bind_some, hShaders, Option.pure_def, ofList_toList]

end Registry

/-! ## The bytes of the fingerprint -/

namespace C

theorem scan_append_eq_none {scanner next : Scanner} {first second : List Char} {found : List Token}
    (hFirst : Scans scanner first found next) (hSecond : scan next second = none) :
    scan scanner (first ++ second) = none := by
  induction first generalizing scanner found with
  | nil =>
    have hNil : some ([], scanner) = some (found, next) := hFirst.result
    simp only [Option.some.injEq, Prod.mk.injEq] at hNil
    rw [List.nil_append, hNil.2, hSecond]
  | cons c rest ih =>
    have hScan := hFirst.result
    simp only [scan, Option.bind_eq_bind, Option.bind_eq_some_iff, Option.pure_def,
      Option.some.injEq, Prod.exists, Prod.mk.injEq] at hScan
    obtain ⟨tokens, middle, hStep, more, last, hRest, -, rfl⟩ := hScan
    simp only [List.cons_append, scan, hStep, ih ⟨hRest⟩, Option.bind_eq_bind, Option.bind_some,
      Option.bind_none]

/-- A text that is read to its end cannot go on with the zero character. -/
theorem tokens_eq_none_of_zero {text other : String} {found : List Token} {more : List Char}
    (hText : tokens text = some found) (hOther : other.toList = text.toList ++ '\x00' :: more) :
    tokens other = none := by
  obtain ⟨⟨others, last⟩, hScan, hEnd⟩ := Option.bind_eq_some_iff.mp hText
  have hEnd : (if last = .start then some others else none) = some found := hEnd
  have hStart : last = .start := (Option.ite_none_right_eq_some.mp hEnd).1
  have hRefused : scan last ('\x00' :: more) = none := by
    rw [hStart]
    rfl
  rw [tokens, hOther, scan_append_eq_none ⟨hScan⟩ hRefused, Option.bind_none]

end C

namespace Artifacts

theorem Continues.tokens_eq_none {shorter longer : Artifacts} {between : String}
    {found : List C.Token} (h : shorter.Continues longer between)
    (hTokens : C.tokens shorter.interface = some found) : C.tokens longer.interface = none :=
  C.tokens_eq_none_of_zero hTokens (continues_iff_texts.mp h).1

/-- Two pairs whose headers have tokens are told apart by the bytes of the fingerprint. -/
theorem eq_of_fingerprintInput {first second : Artifacts} {found others : List C.Token}
    (hFirst : C.tokens first.interface = some found)
    (hSecond : C.tokens second.interface = some others)
    (hEq : first.fingerprintInput = second.fingerprintInput) : first = second := by
  rcases fingerprintInput_eq_iff.mp hEq with hSame | ⟨between, h⟩ | ⟨between, h⟩
  · exact hSame
  · rw [h.tokens_eq_none hFirst] at hSecond
    exact nomatch hSecond
  · rw [h.tokens_eq_none hSecond] at hFirst
    exact nomatch hFirst

end Artifacts

/-! ## Different registries -/

namespace Registry

/-- Accepted registries with the same artifacts are the same, and even those are for which the bytes
that the fingerprint is made of are the same. -/
theorem artifacts_determine {first second : Registry} (hFirst : first.Accepted)
    (hSecond : second.Accepted) :
    ∃ one other, (({} : Settings).generate first).result = .ok one ∧
      (({} : Settings).generate second).result = .ok other ∧
        (one = other → first = second) ∧
          (one.fingerprintInput = other.fingerprintInput → first = second) := by
  have hFirst := accepted_iff_wellFormed.mp hFirst
  have hSecond := accepted_iff_wellFormed.mp hSecond
  have hDetermine (hEq : ({} : Settings).artifacts first = ({} : Settings).artifacts second) :
      first = second := by
    have hRecover := hFirst.recover_artifacts
    rw [hEq, hSecond.recover_artifacts, Option.some.injEq] at hRecover
    exact hRecover.symm
  refine ⟨_, _, Settings.generate_default first, Settings.generate_default second, hDetermine, ?_⟩
  intro hEq
  exact hDetermine
    (Artifacts.eq_of_fingerprintInput hFirst.tokens_interface hSecond.tokens_interface hEq)

/-- The registry of the two shaders with a uniform of the first made an attribute, which keeps the
header as it is. -/
def shifted : Registry := ofList [
  .general {
    name := "tube", vertexPath := "tube.vert", fragmentPath := "tube.frag",
    attributes := ["vertex", "projection"], uniforms := ["color"],
    groups := [⟨"mode", ["solid", "dashed"]⟩] },
  .simple { name := "stealthaura", fragmentPath := "stealthaura.frag" }]

theorem shifted_accepted : shifted.Accepted := by
  rw [accepted_iff_issues]
  decide +kernel

/-- The two registries have different artifacts, and different bytes in the fingerprint. -/
theorem artifacts_determine_shifted :
    sample.Accepted ∧ shifted.Accepted ∧
      ∃ one other, (({} : Settings).generate sample).result = .ok one ∧
        (({} : Settings).generate shifted).result = .ok other ∧
          one ≠ other ∧ one.fingerprintInput ≠ other.fingerprintInput := by
  obtain ⟨one, other, hOne, hOther, hTexts, hBytes⟩ :=
    artifacts_determine sample_accepted shifted_accepted
  have hDiffer : sample ≠ shifted := by decide
  exact ⟨sample_accepted, shifted_accepted, one, other, hOne, hOther,
    fun hEq => hDiffer (hTexts hEq), fun hEq => hDiffer (hBytes hEq)⟩

end Registry

end ShaderHandles
