import ShaderHandles.Proofs.Shader.Place
import ShaderHandles.Proofs.Text.Lines

/-!
# The members of the container

The lines of the header tell which handle fields the container has, for all settings and for all
shaders, whatever characters their names hold. A reader that knows the names of the types finds every
line's part in it by the indentation: a line opens a struct, declares a handle, or closes a struct and
gives it its name. Structs that are open form a stack, and the fields of a struct that is closed are
qualified by its name.

* `MemberStack.step`: what one line does to the structs that are open.
* `MemberStack.reads_declaration`: the lines of a shader are read as its name and the paths of its
  fields.
* `Settings.sharedFields?`, `Settings.containerFields?`: the fields of the shared struct type and of
  the container, read from the lines of the header.
* `Settings.containerFields?_interfaceLines`: the header declares every shader with the paths of its
  fields, in the order of the registry.
-/

namespace ShaderHandles

/-! ## Parts of lines -/

namespace Text

/-- What stands in a line between its beginning and its end. -/
def inside? (opening closing line : String) : Option String := do
  let rest ← opening.toList.isPrefixOf? line.toList
  let inner ← closing.toList.isSuffixOf? rest
  return String.ofList inner

theorem inside?_eq_some_iff {opening closing line inner : String} :
    inside? opening closing line = some inner ↔ line = opening ++ inner ++ closing := by
  simp only [inside?, Option.bind_eq_bind, Option.bind_eq_some_iff, Option.pure_def,
    Option.some.injEq, List.isPrefixOf?_eq_some_iff_append_eq,
    List.isSuffixOf?_eq_some_iff_append_eq]
  constructor
  · rintro ⟨rest, hRest, chars, hChars, rfl⟩
    rw [← String.toList_inj, String.toList_append, String.toList_append, String.toList_ofList,
      ← hRest, ← hChars, List.append_assoc]
  · rintro rfl
    refine ⟨inner.toList ++ closing.toList, ?_, inner.toList, rfl, String.ofList_toList⟩
    rw [String.toList_append, String.toList_append, List.append_assoc]

theorem inside?_append (opening inner closing : String) :
    inside? opening closing (opening ++ inner ++ closing) = some inner :=
  inside?_eq_some_iff.mpr rfl

/-- The lines after the first line that is `line`. -/
def behind (line : String) (lines : List String) : List String :=
  (lines.dropWhile (· ≠ line)).drop 1

theorem behind_eq {line : String} {before after : List String} (hLine : line ∉ before) :
    behind line (before ++ line :: after) = after := by
  have hBefore : ∀ other ∈ before, decide (other ≠ line) = true :=
    fun other hOther => decide_eq_true fun hEq => hLine (hEq ▸ hOther)
  rw [behind, List.dropWhile_append_of_pos hBefore, List.dropWhile_cons_of_neg (by simp),
    List.drop_one, List.tail_cons]

/-- Text after a beginning leaves its first character as it is. -/
theorem head?_append {opening : String} {c : Char} (rest : String)
    (hOpening : opening.toList.head? = some c) : (opening ++ rest).toList.head? = some c := by
  rw [String.toList_append, List.head?_append, hOpening]
  rfl

theorem not_mem_of_head? {line : String} {lines : List String} {c : Char}
    (hLine : line.toList.head? = some c) (hLines : ∀ other ∈ lines, other.toList.head? ≠ some c) :
    line ∉ lines :=
  fun hMem => hLines line hMem hLine

end Text

/-- The indentation of the lines inside of some number of structs in the container. -/
def Indent.ofDepth (depth : Nat) : String := String.ofList (List.replicate (3 * (depth + 1)) ' ')

theorem Indent.toList_ofDepth (depth : Nat) :
    (ofDepth depth).toList = List.replicate (3 * (depth + 1)) ' ' := String.toList_ofList

theorem Indent.member_eq : member = ofDepth 0 := rfl

theorem Indent.field_eq : field = ofDepth 1 := rfl

theorem Indent.nested_eq : nested = ofDepth 2 := rfl

/-! ## The reader -/

/-- The shaders that have been read, each with the paths of its fields, and the structs that are open,
the innermost first, each with the paths read in it so far. -/
structure MemberStack where
  members : List (String × List String) := []
  opened : List (List String) := []

namespace MemberStack

/-- A struct with the paths `own` is closed inside of the structs `outer`. -/
def close (members : List (String × List String)) (name : String) (own : List String) :
    List (List String) → MemberStack
  | [] => ⟨members ++ [(name, own)], []⟩
  | around :: outer => ⟨members, (around ++ own.map (Field.groupPath name)) :: outer⟩

/-- One line. A member of the shared type has the fields `fields`. -/
def step (settings : Settings) (fields : List String) (reader : MemberStack) (line : String) :
    Option MemberStack :=
  if line = Indent.ofDepth reader.opened.length ++ "struct \x7b" then
    some ⟨reader.members, [] :: reader.opened⟩
  else
    match reader.opened with
    | [] =>
      (Text.inside? (Indent.ofDepth 0 ++ settings.layout.simpleType ++ " ") ";" line).map fun name =>
        ⟨reader.members ++ [(name, fields)], []⟩
    | own :: outer =>
      match Text.inside? (Indent.ofDepth (outer.length + 1) ++ settings.api.handleType ++ " ") ";"
          line with
      | some name => some ⟨reader.members, (own ++ [name]) :: outer⟩
      | none =>
        (Text.inside? (Indent.ofDepth outer.length ++ "\x7d ") ";" line).map fun name =>
          close reader.members name own outer

/-- A reader becomes another one over some lines. -/
structure Reads (settings : Settings) (fields : List String) (reader : MemberStack)
    (lines : List String) (next : MemberStack) : Prop where
  result : lines.foldlM (step settings fields) reader = some next

/-! ## One line -/

section

variable {settings : Settings} {fields : List String} {members : List (String × List String)}
  {own : List String} {outer : List (List String)}

/-- A line that ends with a semicolon opens no struct. -/
theorem ne_opening (indent rest : String) : rest ++ ";" ≠ indent ++ "struct \x7b" := by
  intro hEq
  have hLast := congrArg (fun text => text.toList.getLast?) hEq
  simp at hLast

/-- The brace of a line that closes a struct stands where a line inside of the struct is indented. -/
theorem inside?_closing (depth : Nat) (type name : String) :
    Text.inside? (Indent.ofDepth (depth + 1) ++ type) ";"
      (Indent.ofDepth depth ++ "\x7d " ++ name ++ ";") = none := by
  rw [Option.eq_none_iff_forall_ne_some]
  intro inner hInner
  have hChars := congrArg String.toList (Text.inside?_eq_some_iff.mp hInner)
  have hDepth : 3 * (depth + 1 + 1) = 3 * (depth + 1) + 3 := by omega
  simp only [String.toList_append, Indent.toList_ofDepth, hDepth, List.replicate_add,
    List.append_assoc, List.append_cancel_left_eq] at hChars
  exact absurd (List.head_eq_of_cons_eq hChars) (by decide)

theorem step_opening (members : List (String × List String)) (outer : List (List String)) :
    step settings fields ⟨members, outer⟩ (Indent.ofDepth outer.length ++ "struct \x7b") =
      some ⟨members, [] :: outer⟩ :=
  if_pos rfl

theorem step_shared (members : List (String × List String)) (name : String) :
    step settings fields ⟨members, []⟩
      (Indent.ofDepth 0 ++ settings.layout.simpleType ++ " " ++ name ++ ";") =
      some ⟨members ++ [(name, fields)], []⟩ := by
  rw [step, if_neg (ne_opening _ _)]
  simp only [Text.inside?_append, Option.map_some]

theorem step_handle (name : String) :
    step settings fields ⟨members, own :: outer⟩
      (settings.api.handleDeclaration (Indent.ofDepth (outer.length + 1)) name) =
      some ⟨members, (own ++ [name]) :: outer⟩ := by
  rw [Api.handleDeclaration, step, if_neg (ne_opening _ _)]
  simp only [Text.inside?_append]

theorem step_closing (name : String) :
    step settings fields ⟨members, own :: outer⟩
      (Indent.ofDepth outer.length ++ "\x7d " ++ name ++ ";") = some (close members name own outer) := by
  have hHandle := inside?_closing outer.length (settings.api.handleType ++ " ") name
  rw [← String.append_assoc] at hHandle
  rw [step, if_neg (ne_opening _ _)]
  simp only [hHandle, Text.inside?_append, Option.map_some]

end

/-! ## Lines one after the other -/

namespace Reads

variable {settings : Settings} {fields : List String} {reader next last : MemberStack}
  {first second : List String} {line : String}

theorem nil : Reads settings fields reader [] reader := ⟨rfl⟩

theorem append (hFirst : Reads settings fields reader first next)
    (hSecond : Reads settings fields next second last) :
    Reads settings fields reader (first ++ second) last := by
  constructor
  rw [List.foldlM_append, hFirst.result]
  exact hSecond.result

theorem one (hStep : step settings fields reader line = some next) :
    Reads settings fields reader [line] next := by
  constructor
  rw [List.foldlM_cons, hStep]
  rfl

end Reads

section

variable {settings : Settings} {fields : List String} {members : List (String × List String)}

/-- Handles are added to the innermost struct. -/
theorem reads_handles {indent : String} {outer : List (List String)}
    (hIndent : indent = Indent.ofDepth (outer.length + 1)) (names own : List String) :
    Reads settings fields ⟨members, own :: outer⟩
      (names.map (settings.api.handleDeclaration indent)) ⟨members, (own ++ names) :: outer⟩ := by
  subst hIndent
  induction names generalizing own with
  | nil =>
    rw [List.append_nil]
    exact .nil
  | cons name rest ih =>
    have hRest := ih (own ++ [name])
    rw [List.append_assoc] at hRest
    exact (Reads.one (step_handle name)).append hRest

/-- The lines of a struct are read if those inside are. -/
theorem reads_struct {indent name : String} {inner own : List String} {outer : List (List String)}
    (hIndent : indent = Indent.ofDepth outer.length)
    (hInner : Reads settings fields ⟨members, [] :: outer⟩ inner ⟨members, own :: outer⟩) :
    Reads settings fields ⟨members, outer⟩
      ((indent ++ "struct \x7b") :: inner ++ [indent ++ "\x7d " ++ name ++ ";"])
      (close members name own outer) := by
  subst hIndent
  exact ((Reads.one (step_opening members outer)).append hInner).append (.one (step_closing name))

theorem reads_group (group : SubroutineGroup) (own : List String) :
    Reads settings fields ⟨members, [own]⟩ (group.declaration settings.api)
      ⟨members, [own ++ group.fields.map Field.path]⟩ := by
  have hDepth : Indent.nested = Indent.ofDepth ([own].length + 1) := Indent.nested_eq
  have hInner : Reads settings fields ⟨members, [[], own]⟩
      ((Field.selectorMember :: group.variants).map (settings.api.handleDeclaration Indent.nested))
      ⟨members, [[] ++ (Field.selectorMember :: group.variants), own]⟩ :=
    reads_handles hDepth _ []
  have hPaths : (Field.selectorMember :: group.variants).map (Field.groupPath group.name) =
      group.fields.map Field.path := by
    simp [SubroutineGroup.fields, Field.path, Function.comp_def]
  have hClose : close members group.name ([] ++ (Field.selectorMember :: group.variants)) [own] =
      ⟨members, [own ++ group.fields.map Field.path]⟩ := by
    rw [close, List.nil_append, hPaths]
  rw [← hClose]
  exact reads_struct Indent.field_eq hInner

theorem reads_groups (groups : List SubroutineGroup) (own : List String) :
    Reads settings fields ⟨members, [own]⟩
      (groups.flatMap (SubroutineGroup.declaration settings.api))
      ⟨members, [own ++ (groups.flatMap SubroutineGroup.fields).map Field.path]⟩ := by
  induction groups generalizing own with
  | nil =>
    rw [List.flatMap_nil, List.flatMap_nil, List.map_nil, List.append_nil]
    exact .nil
  | cons group rest ih =>
    have hRest := ih (own ++ group.fields.map Field.path)
    rw [List.append_assoc, ← List.map_append, ← List.flatMap_cons] at hRest
    rw [List.flatMap_cons]
    exact (reads_group group own).append hRest

/-- The struct of a general shader is read as its name and the paths of its fields. -/
theorem reads_general (shader : GeneralShader) :
    Reads settings fields ⟨members, []⟩ (shader.declaration settings.api)
      ⟨members ++ [(shader.name, shader.fieldPaths)], []⟩ := by
  let plain := Field.programMember :: (shader.attributes ++ shader.uniforms)
  have hDepth : Indent.field = Indent.ofDepth (([] : List (List String)).length + 1) :=
    Indent.field_eq
  have hPlain : Reads settings fields ⟨members, [[]]⟩
      (plain.map (settings.api.handleDeclaration Indent.field)) ⟨members, [[] ++ plain]⟩ :=
    reads_handles hDepth plain []
  have hPaths : shader.fieldPaths =
      [] ++ plain ++ (shader.groups.flatMap SubroutineGroup.fields).map Field.path := by
    simp [plain, GeneralShader.fieldPaths, GeneralShader.fields, GeneralShader.plainFields,
      GeneralShader.subroutineFields, Field.path, Function.comp_def]
  have hInner := hPlain.append (reads_groups shader.groups ([] ++ plain))
  rw [← hPaths] at hInner
  exact reads_struct Indent.member_eq hInner

end

section

variable {settings : Settings}

/-- The declaration of a shader is read as its name and the paths of its fields. -/
theorem reads_declaration (shader : Shader) (members : List (String × List String)) :
    Reads settings SimpleShader.sharedMembers ⟨members, []⟩ (shader.declaration settings)
      ⟨members ++ [(shader.name, shader.fieldPaths)], []⟩ := by
  cases shader with
  | general shader => exact reads_general shader
  | simple shader => exact .one (step_shared members shader.name)

theorem reads_declarations (shaders : List Shader) (members : List (String × List String)) :
    Reads settings SimpleShader.sharedMembers ⟨members, []⟩
      (shaders.flatMap (Shader.declaration settings))
      ⟨members ++ shaders.map fun shader => (shader.name, shader.fieldPaths), []⟩ := by
  induction shaders generalizing members with
  | nil =>
    rw [List.map_nil, List.append_nil]
    exact .nil
  | cons shader rest ih =>
    have hRest := ih (members ++ [(shader.name, shader.fieldPaths)])
    rw [List.append_assoc] at hRest
    rw [List.flatMap_cons]
    exact (reads_declaration shader members).append hRest

end

end MemberStack

/-! ## The lines of the header -/

namespace Settings

def sharedOpening (settings : Settings) : String :=
  "typedef struct " ++ settings.layout.simpleType ++ "_ \x7b"

def sharedClosing (settings : Settings) : String := "\x7d " ++ settings.layout.simpleType ++ ";"

def containerOpening (settings : Settings) : String :=
  "typedef struct " ++ settings.layout.containerType ++ "_ \x7b"

def containerClosing (settings : Settings) : String :=
  "\x7d " ++ settings.layout.containerType ++ ";"

/-- The fields that the definition of the shared struct type declares. -/
def sharedFields? (settings : Settings) (lines : List String) : Option (List String) :=
  (Text.between settings.sharedOpening settings.sharedClosing lines).mapM
    (Text.inside? ("    " ++ settings.api.handleType ++ " ") ";")

/-- The shaders that some lines of the container declare, each with the paths of its fields. A member
of the shared type has the fields `fields`. -/
def declaredFields? (settings : Settings) (fields lines : List String) :
    Option (List (String × List String)) := do
  match ← lines.foldlM (MemberStack.step settings fields) {} with
  | ⟨members, []⟩ => some members
  | _ => none

/-- The shaders that the container has, each with the paths of its fields. The container is defined
after the shared struct type, which may have the same name. -/
def containerFields? (settings : Settings) (lines : List String) :
    Option (List (String × List String)) := do
  let fields ← settings.sharedFields? lines
  settings.declaredFields? fields
    (Text.between settings.containerOpening settings.containerClosing
      (Text.behind settings.sharedClosing lines))

theorem declaredFields?_of_reads {settings : Settings} {fields lines : List String}
    {members : List (String × List String)}
    (hReads : MemberStack.Reads settings fields {} lines ⟨members, []⟩) :
    settings.declaredFields? fields lines = some members := by
  simp only [declaredFields?, hReads.result, Option.bind_eq_bind, Option.bind_some]

/-- A general shader is read from its lines, whatever the shared fields are. -/
theorem declaredFields?_general (settings : Settings) (fields : List String)
    (shader : GeneralShader) :
    settings.declaredFields? fields (shader.declaration settings.api) =
      some [(shader.name, shader.fieldPaths)] :=
  declaredFields?_of_reads (MemberStack.reads_general shader)

theorem declaredFields?_declarations (settings : Settings) (shaders : List Shader) :
    settings.declaredFields? SimpleShader.sharedMembers
        (shaders.flatMap (Shader.declaration settings)) =
      some (shaders.map fun shader => (shader.name, shader.fieldPaths)) :=
  declaredFields?_of_reads (MemberStack.reads_declarations shaders [])

/-! ### Where the two structs stand -/

open Text (head?_append not_mem_of_head?)

/-- The lines of the header before the definition of the shared struct type. -/
def guardLines (settings : Settings) : List String :=
  ["/* FILE GENERATED BY " ++ settings.provenance ++ " */",
    "#ifndef " ++ settings.output.includeGuard,
    "#define " ++ settings.output.includeGuard,
    "#include \"" ++ settings.output.graphicsHeader ++ "\"",
    ""]

/-- The lines that declare the fields of the shared struct type. -/
def sharedLines (settings : Settings) : List String :=
  SimpleShader.sharedMembers.map (settings.api.handleDeclaration "    ")

theorem interfaceLines_eq (settings : Settings) (registry : Registry) :
    settings.interfaceLines registry =
      settings.guardLines ++ settings.sharedOpening :: (settings.sharedLines ++
        settings.sharedClosing :: ("" :: settings.containerOpening ::
          (registry.toList.flatMap (Shader.declaration settings) ++
            settings.containerClosing :: settings.interfaceClosing.tail))) := by
  have hOpening : settings.interfaceOpening =
      settings.guardLines ++ settings.sharedOpening :: settings.sharedLines ++
        [settings.sharedClosing, "", settings.containerOpening] := rfl
  have hClosing : settings.interfaceClosing =
      settings.containerClosing :: settings.interfaceClosing.tail := rfl
  rw [interfaceLines, hOpening, hClosing, List.tail_cons]
  simp only [List.append_assoc, List.cons_append, List.nil_append]

theorem head?_sharedOpening (settings : Settings) :
    settings.sharedOpening.toList.head? = some 't' := head?_append _ (head?_append _ rfl)

theorem head?_sharedClosing (settings : Settings) :
    settings.sharedClosing.toList.head? = some '\x7d' := head?_append _ (head?_append _ rfl)

theorem head?_containerOpening (settings : Settings) :
    settings.containerOpening.toList.head? = some 't' := head?_append _ (head?_append _ rfl)

theorem head?_containerClosing (settings : Settings) :
    settings.containerClosing.toList.head? = some '\x7d' := head?_append _ (head?_append _ rfl)

theorem head?_handleDeclaration {indent : String} (api : Api) (name : String)
    (hIndent : indent.toList.head? = some ' ') :
    (api.handleDeclaration indent name).toList.head? = some ' ' :=
  head?_append _ (head?_append _ (head?_append _ (head?_append _ hIndent)))

/-- The lines of a struct begin with a blank if those inside do. -/
theorem head?_struct {indent name : String} {inner : List String}
    (hIndent : indent.toList.head? = some ' ')
    (hInner : ∀ line ∈ inner, line.toList.head? = some ' ') :
    ∀ line ∈ (indent ++ "struct \x7b") :: inner ++ [indent ++ "\x7d " ++ name ++ ";"],
      line.toList.head? = some ' ' := by
  intro line hLine
  rw [List.mem_append, List.mem_cons, List.mem_singleton] at hLine
  rcases hLine with (rfl | hLine) | rfl
  · exact head?_append _ hIndent
  · exact hInner line hLine
  · exact head?_append _ (head?_append _ (head?_append _ hIndent))

theorem head?_general (settings : Settings) (shader : GeneralShader) :
    ∀ line ∈ shader.declaration settings.api, line.toList.head? = some ' ' := by
  have hHandles {indent : String} (names : List String) (hIndent : indent.toList.head? = some ' ') :
      ∀ line ∈ names.map (settings.api.handleDeclaration indent), line.toList.head? = some ' ' := by
    intro line hLine
    obtain ⟨name, -, rfl⟩ := List.mem_map.mp hLine
    exact head?_handleDeclaration settings.api name hIndent
  have hInner : ∀ line ∈ (Field.programMember :: (shader.attributes ++ shader.uniforms)).map
      (settings.api.handleDeclaration Indent.field) ++
        shader.groups.flatMap (SubroutineGroup.declaration settings.api),
      line.toList.head? = some ' ' := by
    intro line hLine
    rcases List.mem_append.mp hLine with hPlain | hGroups
    · exact hHandles _ rfl line hPlain
    · obtain ⟨group, -, hGroup⟩ := List.mem_flatMap.mp hGroups
      exact head?_struct rfl (hHandles (Field.selectorMember :: group.variants) rfl) line hGroup
  exact head?_struct rfl hInner

/-- The lines of the container begin with a blank. -/
theorem head?_declarations (settings : Settings) (shaders : List Shader) :
    ∀ line ∈ shaders.flatMap (Shader.declaration settings), line.toList.head? = some ' ' := by
  intro line hLine
  obtain ⟨shader, -, hLine⟩ := List.mem_flatMap.mp hLine
  cases shader with
  | general shader => exact head?_general settings shader line hLine
  | simple shader =>
    rw [List.mem_singleton.mp hLine]
    exact head?_append _ (head?_append _ (head?_append _ (head?_append _ rfl)))

theorem head?_sharedLines (settings : Settings) :
    ∀ line ∈ settings.sharedLines, line.toList.head? = some ' ' := by
  intro line hLine
  obtain ⟨name, -, rfl⟩ := List.mem_map.mp hLine
  exact head?_handleDeclaration settings.api name rfl

/-- The lines of the include guard are directives, a comment and an empty line. -/
theorem head?_guardLines (settings : Settings) :
    ∀ line ∈ settings.guardLines,
      line.toList.head? = some '/' ∨ line.toList.head? = some '#' ∨ line.toList.head? = none := by
  simp only [guardLines, List.forall_mem_cons, List.not_mem_nil, false_implies, implies_true,
    and_true]
  refine ⟨Or.inl ?provenance, Or.inr (Or.inl ?ifndef), Or.inr (Or.inl ?define),
    Or.inr (Or.inl ?graphics), Or.inr (Or.inr rfl)⟩
  case provenance => exact head?_append _ (head?_append _ rfl)
  case ifndef => exact head?_append _ rfl
  case define => exact head?_append _ rfl
  case graphics => exact head?_append _ (head?_append _ rfl)

/-- A line that begins with a letter or a brace is none of the include guard. -/
theorem not_mem_guardLines {settings : Settings} {line : String} {c : Char}
    (hLine : line.toList.head? = some c) (hSlash : c ≠ '/') (hHash : c ≠ '#') :
    line ∉ settings.guardLines := by
  refine not_mem_of_head? hLine fun other hOther hHead => ?_
  rcases settings.head?_guardLines other hOther with hEq | hEq | hEq <;> rw [hHead] at hEq
  · exact hSlash (Option.some.inj hEq)
  · exact hHash (Option.some.inj hEq)
  · exact nomatch hEq

/-! ### What the header declares -/

theorem mapM_handles (settings : Settings) (indent : String) (names : List String) :
    (names.map (settings.api.handleDeclaration indent)).mapM
      (Text.inside? (indent ++ settings.api.handleType ++ " ") ";") = some names := by
  induction names with
  | nil => rfl
  | cons name rest ih =>
    rw [List.map_cons, List.mapM_cons, ih, Api.handleDeclaration, Text.inside?_append]
    rfl

/-- The header declares the shared struct type with its fields. -/
theorem sharedFields?_interfaceLines (settings : Settings) (registry : Registry) :
    settings.sharedFields? (settings.interfaceLines registry) =
      some SimpleShader.sharedMembers := by
  have hOpening : settings.sharedOpening ∉ settings.guardLines :=
    not_mem_guardLines settings.head?_sharedOpening (by decide) (by decide)
  have hClosing : settings.sharedClosing ∉ settings.sharedLines := by
    refine not_mem_of_head? settings.head?_sharedClosing fun line hLine => ?_
    rw [settings.head?_sharedLines line hLine]
    decide
  rw [sharedFields?, interfaceLines_eq, Text.between_eq hOpening hClosing]
  exact mapM_handles settings "    " SimpleShader.sharedMembers

/-- The lines of the header behind the definition of the shared struct type. -/
theorem behind_shared (settings : Settings) (registry : Registry) :
    Text.behind settings.sharedClosing (settings.interfaceLines registry) =
      [""] ++ settings.containerOpening ::
        (registry.toList.flatMap (Shader.declaration settings) ++
          settings.containerClosing :: settings.interfaceClosing.tail) := by
  have hHead := settings.head?_sharedClosing
  have hBefore : settings.sharedClosing ∉
      settings.guardLines ++ settings.sharedOpening :: settings.sharedLines := by
    rw [List.mem_append, List.mem_cons]
    rintro (hGuard | hOpening | hShared)
    · exact not_mem_guardLines hHead (by decide) (by decide) hGuard
    · have hOther := settings.head?_sharedOpening
      rw [← hOpening, hHead] at hOther
      exact absurd hOther (by decide)
    · have hBlank := settings.head?_sharedLines _ hShared
      rw [hHead] at hBlank
      exact absurd hBlank (by decide)
  rw [interfaceLines_eq, ← List.cons_append, ← List.append_assoc, Text.behind_eq hBefore]
  rfl

/-- The header declares every shader with the paths of its fields, in the order of the registry,
whatever the settings and the names are. -/
theorem containerFields?_interfaceLines (settings : Settings) (registry : Registry) :
    settings.containerFields? (settings.interfaceLines registry) =
      some (registry.toList.map fun shader => (shader.name, shader.fieldPaths)) := by
  have hOpening : settings.containerOpening ∉ [""] := by
    refine not_mem_of_head? settings.head?_containerOpening fun line hLine => ?_
    rw [List.mem_singleton.mp hLine]
    exact fun hEq => nomatch hEq
  have hClosing : settings.containerClosing ∉
      registry.toList.flatMap (Shader.declaration settings) := by
    refine not_mem_of_head? settings.head?_containerClosing fun line hLine => ?_
    rw [settings.head?_declarations registry.toList line hLine]
    decide
  simp only [containerFields?, sharedFields?_interfaceLines, Option.bind_eq_bind, Option.bind_some]
  rw [behind_shared, Text.between_eq hOpening hClosing, declaredFields?_declarations]

end Settings

end ShaderHandles
