import ShaderHandles.Artifacts.Generate
import ShaderHandles.Proofs.Template.Trees

/-!
# The layout of the artifacts

Both artifacts as lists of lines, for every registry and every settings. A line is what stands
before a line end that the generator writes; values of the settings and of the registry are put into
the lines as they are.

* `Attempt.Runs`: what an attempt logs and what it comes to, with a rule for steps that follow each
  other.
* `Settings.interfaceLines`, `Settings.implementationLines`: the lines of the two artifacts.
* `Settings.interface_runs`, `Settings.implementation_runs`: rendering the templates never fails and
  gives exactly these lines.
* `Settings.templates_render`: what the two sources are rendered to.
* `Settings.generate_result`: generation gives both texts unless its check fails.
-/

namespace ShaderHandles

/-! ## Runs of an attempt -/

namespace Attempt

/-- The value of an attempt or its failure, without the log. -/
def result {α : Type} (attempt : Attempt α) : Except Failure α := attempt.run.value

/-- An attempt logs these entries and comes to this value or failure. -/
structure Runs {α : Type} (attempt : Attempt α) (logged : List Entry) (result : Except Failure α) :
    Prop where
  result : attempt.result = result
  logged : attempt.run.entries = logged

variable {α β : Type} {attempt : Attempt α} {next : α → Attempt β} {logged more : List Entry}

/-- An attempt that succeeds hands its value to the next one. -/
theorem result_bind_of_ok {value : α} (hAttempt : attempt.result = .ok value) :
    (attempt >>= next).result = (next value).result := by
  unfold result at hAttempt ⊢
  simp only [ExceptT.run_bind, Logged.bind_value, hAttempt]

namespace Runs

theorem done (value : α) : (pure value : Attempt α).Runs [] (.ok value) := ⟨rfl, rfl⟩

theorem failed (failure : Failure) : (throw failure : Attempt α).Runs [] (.error failure) := ⟨rfl, rfl⟩

theorem send (entry : Entry) : (Attempt.send entry).Runs [entry] (.ok ()) := ⟨rfl, rfl⟩

theorem sendAll (entries : List Entry) : (Attempt.sendAll entries).Runs entries (.ok ()) :=
  ⟨rfl, List.append_nil entries⟩

/-- What follows a step that succeeds is logged behind it. -/
theorem bind {value : α} {result : Except Failure β} (hFirst : attempt.Runs logged (.ok value))
    (hNext : (next value).Runs more result) : (attempt >>= next).Runs (logged ++ more) result where
  result := by rw [result_bind_of_ok hFirst.result, hNext.result]
  logged := by
    have hValue : attempt.run.value = .ok value := hFirst.result
    simp only [ExceptT.run_bind, Logged.bind_entries, hValue, hFirst.logged, hNext.logged]

/-- A step that fails is the last one. -/
theorem bind_error {failure : Failure} (hFirst : attempt.Runs logged (.error failure)) :
    (attempt >>= next).Runs logged (.error failure) where
  result := by
    have hValue : attempt.run.value = .error failure := hFirst.result
    unfold Attempt.result
    simp only [ExceptT.run_bind, Logged.bind_value, hValue, Logged.pure_value]
  logged := by
    have hValue : attempt.run.value = .error failure := hFirst.result
    simp only [ExceptT.run_bind, Logged.bind_entries, hValue, hFirst.logged, Logged.pure_entries,
      List.append_nil]

end Runs

end Attempt

/-! ## Loops of the templates -/

namespace Template

theorem lines_append (first second : List String) :
    lines (first ++ second) = lines first ++ lines second := by
  simp [lines, String.join_append]

theorem lines_cons (line : String) (rest : List String) :
    lines (line :: rest) = line ++ "\n" ++ lines rest := by
  simp [lines, String.join_cons]

@[simp] theorem lines_nil : lines [] = "" := rfl

theorem passes_map {α β : Type} (value : α → β) (items : List α) :
    passes (items.map value) = (passes items).map (Prod.map value id) := by
  induction items with
  | nil => rfl
  | cons item rest ih =>
    cases rest with
    | nil => rfl
    | cons next rest => simpa [passes] using ih

theorem mapM_ok {α β : Type} {step : α → Except Fault β} {value : α → β} {items : List α}
    (hStep : ∀ item, step item = .ok (value item)) :
    items.mapM step = .ok (items.map value) := by
  rw [funext hStep]
  exact List.mapM_pure

/-- Rendering a template in a scope gives a text. -/
structure Writes (scope : Scope) (template : Template) (text : String) : Prop where
  result : template.render scope = .ok text

namespace Writes

variable {scope : Scope} {next : Template} {rest : String}

theorem congr {template : Template} {text text' : String} (hWrites : Writes scope template text)
    (hText : text = text') : Writes scope template text' := hText ▸ hWrites

theorem done : Writes scope .done "" := ⟨rfl⟩

theorem text {fixed : String} (hNext : Writes scope next rest) :
    Writes scope (.text fixed next) (fixed ++ rest) := by
  constructor
  rw [render, hNext.result]
  rfl

theorem insert {name value : String} (hValue : scope.get? name = some (.text value))
    (hNext : Writes scope next rest) : Writes scope (.insert name next) (value ++ rest) := by
  constructor
  rw [render, hValue]
  simp only [hNext.result]
  rfl

/-- A loop whose body never fails writes what the body writes in each pass. -/
theorem forEach {α : Type} {item list : String} {body : Template} {items : List α}
    {value : α → Value} {written : α × Bool → String}
    (hList : scope.get? list = some (.list (items.map value)))
    (hBody : ∀ pass : α × Bool,
      Writes (scope.enter item (value pass.1, pass.2)) body (written pass))
    (hNext : Writes scope next rest) :
    Writes scope (.forEach item list body next)
      (String.join ((passes items).map written) ++ rest) := by
  have hPasses : (passes (items.map value)).mapM
      (fun pass => body.render (scope.enter item pass)) = .ok ((passes items).map written) := by
    rw [passes_map, List.mapM_map]
    exact mapM_ok fun pass => (hBody pass).result
  constructor
  rw [render, hList]
  simp only [hPasses, hNext.result]
  rfl

/-- A loop over texts writes what its body writes for each of them. -/
theorem forEach_texts {item list : String} {body : Template} {names : List String}
    {written : String → String} (hList : scope.get? list = some (.texts names))
    (hBody : ∀ name last, Writes (scope.enter item (.text name, last)) body (written name))
    (hNext : Writes scope next rest) :
    Writes scope (.forEach item list body next) (String.join (names.map written) ++ rest) := by
  have hLoop := forEach hList (fun pass => hBody pass.1 pass.2) hNext
  have hNames : (passes names).map (fun pass => written pass.1) = names.map written := by
    rw [← map_fst_passes names, List.map_map, map_fst_passes]
    rfl
  rwa [hNames] at hLoop

/-- A loop over texts whose body is one line writes those lines. -/
theorem forEachLine {item list : String} {names : List String}
    (hList : scope.get? list = some (.texts names)) (hNext : Writes scope next rest) :
    Writes scope (forEachLine item list next) (lines names ++ rest) := by
  refine forEach_texts hList (fun name last => ?_) hNext
  have hName : (scope.enter item (.text name, last)).get? item = some (.text name) := by
    simp [Scope.enter, Scope.get?]
  exact insert hName (text done)

theorem unlessLast {fixed : String} (hNext : Writes scope next rest) :
    Writes scope (.unlessLast (.text fixed .done) next)
      ((if scope.inLastPass then "" else fixed) ++ rest) := by
  constructor
  rw [render, hNext.result]
  cases scope.inLastPass <;> simp [render, bind, Except.bind, pure, Except.pure]

end Writes

/-- Blocks of lines, each but the last followed by an empty line. -/
theorem join_passes_blocks (blocks : List (List String)) :
    String.join ((passes blocks).map fun pass => lines pass.1 ++ if pass.2 then "" else "\n") =
      lines ([""].intercalate blocks) := by
  induction blocks with
  | nil => rfl
  | cons block rest ih =>
    cases rest with
    | nil => simp [passes, List.intercalate, String.join_cons]
    | cons next rest =>
      rw [List.intercalate_cons_of_ne_nil (List.cons_ne_nil next rest), lines_append,
        lines_append, ← ih]
      simp [passes, String.join_cons, lines_cons, String.append_assoc]

end Template

/-! ## The lines -/

namespace Settings

/-- The lines of the header before the members of the container. -/
def interfaceOpening (settings : Settings) : List String :=
  ["/* FILE GENERATED BY " ++ settings.provenance ++ " */",
    "#ifndef " ++ settings.output.includeGuard,
    "#define " ++ settings.output.includeGuard,
    "#include \"" ++ settings.output.graphicsHeader ++ "\"",
    "",
    "typedef struct " ++ settings.layout.simpleType ++ "_ \x7b"] ++
  SimpleShader.sharedMembers.map (settings.api.handleDeclaration "    ") ++
  ["\x7d " ++ settings.layout.simpleType ++ ";",
    "",
    "typedef struct " ++ settings.layout.containerType ++ "_ \x7b"]

/-- The comment on the instance of the container. -/
def lifecycleComment (settings : Settings) : List String :=
  ["/*",
    " * Process-wide shader state.",
    " *",
    " * " ++ settings.layout.loadFunction ++
      "() compiles every program and resolves every handle into",
    " * " ++ settings.layout.container ++ "; " ++ settings.layout.unloadFunction ++
      "() deletes every program and zeroes the whole",
    " * structure. A load that fails part way may leave some fields populated and",
    " * others not: treat any load failure as fatal for the entire structure.",
    " */"]

/-- The lines of the header after the members of the container. -/
def interfaceClosing (settings : Settings) : List String :=
  ["\x7d " ++ settings.layout.containerType ++ ";", ""] ++ settings.lifecycleComment ++
  ["extern " ++ settings.layout.containerType ++ " " ++ settings.layout.container ++ ";",
    "",
    "void " ++ settings.layout.loadFunction ++ " (void);",
    "void " ++ settings.layout.unloadFunction ++ " (void);",
    "",
    "#endif /* " ++ settings.output.includeGuard ++ " */"]

/-- The lines of the header. -/
def interfaceLines (settings : Settings) (registry : Registry) : List String :=
  settings.interfaceOpening ++ registry.toList.flatMap (Shader.declaration settings) ++
    settings.interfaceClosing

/-- The lines of the source file before the load routine. -/
def implementationOpening (settings : Settings) : List String :=
  ["/* FILE GENERATED BY " ++ settings.provenance ++ " */",
    "#include <string.h>",
    "#include \"" ++ settings.output.headerFile ++ "\""] ++
  settings.output.sourceIncludes.map (fun header => "#include \"" ++ header ++ "\"") ++
  ["",
    settings.layout.containerType ++ " " ++ settings.layout.container ++ ";",
    ""]

/-- The line that opens a routine. -/
def routineOpening (name : String) : String := "void " ++ name ++ " (void) \x7b"

/-- The lines of the load routine's body: a block for each shader, with one empty line between
blocks. -/
def loadBody (settings : Settings) (registry : Registry) : List String :=
  [""].intercalate (registry.toList.map (Shader.loadLines settings))

/-- The line that resets the container. -/
def resetLine (settings : Settings) : String :=
  "   memset(&" ++ settings.layout.container ++ ", 0, sizeof(" ++ settings.layout.container ++ "));"

/-- The lines of the unload routine's body. -/
def unloadBody (settings : Settings) (registry : Registry) : List String :=
  registry.toList.map (Shader.releaseLine settings) ++ [settings.resetLine]

/-- The lines of the source file. -/
def implementationLines (settings : Settings) (registry : Registry) : List String :=
  settings.implementationOpening ++
    (routineOpening settings.layout.loadFunction :: settings.loadBody registry) ++
    ["\x7d", ""] ++
    (routineOpening settings.layout.unloadFunction :: settings.unloadBody registry) ++ ["\x7d"]

/-! ## Rendering -/

theorem layOut_runs {name : String} {tree : Template} {scope : Template.Scope} {text : String}
    (hTree : Template.get name = .ok tree) (hText : Template.Writes scope tree text) :
    (layOut name scope).Runs [] (.ok text) := by
  have hDone : layOut name scope = pure text := by
    simp only [layOut, hTree, Except.bind, hText.result]
  rw [hDone]
  exact .done text

set_option maxRecDepth 2000 in
theorem interfaceTree_writes (settings : Settings) (registry : Registry) :
    Template.Writes (settings.interfaceScope registry) Template.interfaceTree
      (Template.lines (settings.interfaceLines registry)) := by
  let scope := settings.interfaceScope registry
  have hField : ∀ field last, Template.Writes (scope.enter "field" (.text field, last))
      (.text "    " <| .insert "handle_type" <| .text " " <| .insert "field" <| .text ";\n" .done)
      ("    " ++ (settings.api.handleType ++ (" " ++ (field ++ (";\n" ++ ""))))) :=
    fun field last => .text (.insert rfl (.text (.insert rfl (.text .done))))
  apply Template.Writes.congr
  case hWrites =>
    unfold Template.interfaceTree
    repeat first | apply Template.Writes.text | apply Template.Writes.insert rfl
    apply Template.Writes.forEach_texts rfl hField
    repeat first | apply Template.Writes.text | apply Template.Writes.insert rfl
    apply Template.Writes.forEachLine rfl
    repeat first | apply Template.Writes.text | apply Template.Writes.insert rfl
    exact .done
  case hText =>
    have hFields (fields : List String) : String.join (fields.map fun field =>
        "    " ++ (settings.api.handleType ++ (" " ++ (field ++ (";\n" ++ ""))))) =
        Template.lines (fields.map (settings.api.handleDeclaration "    ")) := by
      simp [Template.lines, Api.handleDeclaration, Function.comp_def, String.append_assoc]
    rw [hFields, ← String.toList_inj]
    unfold Template.lifecycleNote
    simp only [interfaceLines, interfaceOpening, interfaceClosing, lifecycleComment,
      Template.lines_append, Template.lines_cons, Template.lines_nil, String.toList_append]
    repeat rw [String.toList_ofList]
    simp only [List.append_assoc, List.cons_append, List.nil_append]

theorem implementationTree_writes (settings : Settings) (registry : Registry) :
    Template.Writes (settings.implementationScope registry) Template.implementationTree
      (Template.lines (settings.implementationLines registry)) := by
  let scope := settings.implementationScope registry
  have hInclude : ∀ header last, Template.Writes (scope.enter "include" (.text header, last))
      (.text "#include \"" <| .insert "include" <| .text "\"\n" .done)
      ("#include \"" ++ (header ++ ("\"\n" ++ ""))) :=
    fun header last => .text (.insert rfl (.text .done))
  have hBlocks : scope.get? "bindings" =
      some (.list (registry.toList.map fun shader => .texts (shader.loadLines settings))) := rfl
  have hBlock : ∀ pass : Shader × Bool,
      Template.Writes (scope.enter "shader" (.texts (pass.1.loadLines settings), pass.2))
        (Template.forEachLine "line" "shader" <| .unlessLast (.text "\n" .done) .done)
        (Template.lines (pass.1.loadLines settings) ++ ((if pass.2 then "" else "\n") ++ "")) :=
    fun pass => .forEachLine rfl (.unlessLast .done)
  apply Template.Writes.congr
  case hWrites =>
    unfold Template.implementationTree
    repeat first | apply Template.Writes.text | apply Template.Writes.insert rfl
    apply Template.Writes.forEach_texts rfl hInclude
    repeat first | apply Template.Writes.text | apply Template.Writes.insert rfl
    apply Template.Writes.forEach hBlocks hBlock
    repeat first | apply Template.Writes.text | apply Template.Writes.insert rfl
    apply Template.Writes.forEachLine rfl
    repeat first | apply Template.Writes.text | apply Template.Writes.insert rfl
    exact .done
  case hText =>
    have hIncludes : String.join (settings.output.sourceIncludes.map fun header =>
        "#include \"" ++ (header ++ ("\"\n" ++ ""))) =
        Template.lines (settings.output.sourceIncludes.map fun header =>
          "#include \"" ++ header ++ "\"") := by
      simp [Template.lines, Function.comp_def, String.append_assoc]
    have hBody : String.join ((Template.passes registry.toList).map fun pass =>
        Template.lines (pass.1.loadLines settings) ++ ((if pass.2 then "" else "\n") ++ "")) =
        Template.lines (settings.loadBody registry) := by
      rw [loadBody, ← Template.join_passes_blocks, Template.passes_map, List.map_map]
      simp [Function.comp_def]
    rw [hIncludes, hBody, ← String.toList_inj]
    simp only [implementationLines, implementationOpening, unloadBody, routineOpening, resetLine,
      Template.lines_append, Template.lines_cons, Template.lines_nil, String.toList_append]
    repeat rw [String.toList_ofList]
    simp only [List.append_assoc, List.cons_append, List.nil_append]

/-- Behind an entry for each shader, rendering the header never fails and gives its lines. -/
theorem interface_runs (settings : Settings) (registry : Registry) :
    (settings.interface registry).Runs (registry.toList.map declaringEntry)
      (.ok (Template.lines (settings.interfaceLines registry))) := by
  rw [← List.append_nil (registry.toList.map declaringEntry)]
  exact .bind (.sendAll _)
    (layOut_runs Template.get_interfaceName (settings.interfaceTree_writes registry))

/-- The same of the source file. -/
theorem implementation_runs (settings : Settings) (registry : Registry) :
    (settings.implementation registry).Runs (registry.toList.map settings.bindingEntry)
      (.ok (Template.lines (settings.implementationLines registry))) := by
  rw [← List.append_nil (registry.toList.map settings.bindingEntry)]
  exact .bind (.sendAll _)
    (layOut_runs Template.get_implementationName (settings.implementationTree_writes registry))

theorem interface_result (settings : Settings) (registry : Registry) :
    (settings.interface registry).result =
      .ok (Template.lines (settings.interfaceLines registry)) :=
  (settings.interface_runs registry).result

theorem implementation_result (settings : Settings) (registry : Registry) :
    (settings.implementation registry).result =
      .ok (Template.lines (settings.implementationLines registry)) :=
  (settings.implementation_runs registry).result

/-- Both sources are templates, and rendering them never fails, whatever texts the settings and the
registry hold. The header gets the lines of all shaders one after the other. In the load routine of
the source file one empty line stands between two shaders, and none before the first or behind the
last. -/
theorem templates_render (settings : Settings) (registry : Registry) :
    ∃ header source : String,
      header = Template.lines (settings.interfaceOpening ++
        registry.toList.flatMap (Shader.declaration settings) ++ settings.interfaceClosing) ∧
      source = Template.lines (settings.implementationOpening ++
        (routineOpening settings.layout.loadFunction ::
          [""].intercalate (registry.toList.map (Shader.loadLines settings))) ++ ["\x7d", ""] ++
        (routineOpening settings.layout.unloadFunction ::
          (registry.toList.map (Shader.releaseLine settings) ++ [settings.resetLine])) ++
        ["\x7d"]) ∧
      (Template.parse Template.interfaceSource).map
        (·.render (settings.interfaceScope registry)) = some (.ok header) ∧
      (Template.parse Template.implementationSource).map
        (·.render (settings.implementationScope registry)) = some (.ok source) ∧
      (settings.interface registry).result = .ok header ∧
      (settings.implementation registry).result = .ok source := by
  refine ⟨_, _, rfl, rfl, ?header, ?source, settings.interface_result registry,
    settings.implementation_result registry⟩
  case header =>
    rw [Template.parse_interfaceSource, Option.map_some,
      (settings.interfaceTree_writes registry).result]
    rfl
  case source =>
    rw [Template.parse_implementationSource, Option.map_some,
      (settings.implementationTree_writes registry).result]
    rfl

/-! ## The pair -/

/-- Both texts. -/
def artifacts (settings : Settings) (registry : Registry) : Artifacts where
  interface := Template.lines (settings.interfaceLines registry)
  implementation := Template.lines (settings.implementationLines registry)

theorem artifacts_interface (settings : Settings) (registry : Registry) :
    (settings.artifacts registry).interface =
      Template.lines (settings.interfaceLines registry) := by
  rw [artifacts]

theorem artifacts_implementation (settings : Settings) (registry : Registry) :
    (settings.artifacts registry).implementation =
      Template.lines (settings.implementationLines registry) := by
  rw [artifacts]

/-- Generation behind the check. -/
def generateUnchecked (settings : Settings) (registry : Registry) : Attempt Artifacts := do
  let interface ← settings.interface registry
  let implementation ← settings.implementation registry
  let artifacts : Artifacts := { interface, implementation }
  Attempt.send (generatedEntry registry artifacts)
  return artifacts

theorem generate_eq (settings : Settings) (registry : Registry) :
    settings.generate registry =
      if settings.validate then registry.validate >>= fun _ => settings.generateUnchecked registry
      else settings.generateUnchecked registry := by
  unfold generate
  cases settings.validate <;> rfl

theorem generateUnchecked_runs_of_texts {settings : Settings} {registry : Registry}
    {artifacts : Artifacts}
    (hInterface : (settings.interface registry).Runs (registry.toList.map declaringEntry)
      (.ok artifacts.interface))
    (hImplementation : (settings.implementation registry).Runs
      (registry.toList.map settings.bindingEntry) (.ok artifacts.implementation)) :
    (settings.generateUnchecked registry).Runs
      (registry.toList.map declaringEntry ++ (registry.toList.map settings.bindingEntry ++
        [generatedEntry registry artifacts])) (.ok artifacts) :=
  .bind hInterface (.bind hImplementation (.bind (.send _) (.done _)))

/-- Without the check generation never fails. It logs what it does for each shader in both texts, and
then the pair. -/
theorem generateUnchecked_runs (settings : Settings) (registry : Registry) :
    (settings.generateUnchecked registry).Runs
      (registry.toList.map declaringEntry ++ (registry.toList.map settings.bindingEntry ++
        [generatedEntry registry (settings.artifacts registry)]))
      (.ok (settings.artifacts registry)) := by
  apply generateUnchecked_runs_of_texts
  · rw [artifacts_interface]
    exact settings.interface_runs registry
  · rw [artifacts_implementation]
    exact settings.implementation_runs registry

/-- Generation fails only in the check, and gives both texts otherwise. -/
theorem generate_result {settings : Settings} {registry : Registry}
    (hValid : settings.validate = true → registry.validate.result = .ok ()) :
    (settings.generate registry).result = .ok (settings.artifacts registry) := by
  rw [generate_eq]
  split
  case isTrue hValidate =>
    rw [Attempt.result_bind_of_ok (hValid hValidate)]
    exact (settings.generateUnchecked_runs registry).result
  case isFalse => exact (settings.generateUnchecked_runs registry).result

/-- Without the check, as by default, generation never fails. -/
theorem generate_default (registry : Registry) :
    (({} : Settings).generate registry).result = .ok (({} : Settings).artifacts registry) :=
  generate_result fun hValidate => nomatch hValidate

end Settings

end ShaderHandles
