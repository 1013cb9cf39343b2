import ShaderHandles.Proofs.Json.Compact
import ShaderHandles.Proofs.Shader.Object

/-!
# The documents of a registry

A document gives a registry if it is a list with an object for each shader, in order. The kind of a
shader may stand behind the fields that it decides about, and every object may be laid out in its own
way. All these documents are read as the registry. An object without its kind, with an unknown kind,
or without a required field makes a document fail.

* `Shader.IsGivenBy`: the objects of a shader.
* `Shader.IsDefective`: objects that are no shader's.
* `Shader.partsOf?`, `Shader.reads_read`: what the reader makes of an object.
* `Registry.parse_spelling`: documents that give a registry, and documents with a defective object.
-/

namespace ShaderHandles

open Json

/-! ## Shaders -/

namespace Shader

/-- The kind that the object of a shader names. -/
def kind : Shader → Kind
  | general _ => .general
  | simple _ => .simple

/-- The members of an object that are not its kind give the fields of a shader. -/
def FieldsGivenBy : Shader → List (String × Value) → Prop
  | general shader => shader.IsGivenBy
  | simple shader => shader.IsGivenBy

/-- The members of an object that are not its kind. -/
def otherMembers (members : List (String × Value)) : List (String × Value) :=
  members.filter (·.1 != "kind")

/-- The members of an object give a shader: one of them, anywhere, is the kind. -/
structure IsGivenBy (shader : Shader) (members : List (String × Value)) : Prop where
  kind : members.filter (·.1 == "kind") = [("kind", .string shader.kind.word)]
  fields : shader.FieldsGivenBy (otherMembers members)

/-- What keeps the members of an object from giving a shader. -/
inductive IsDefective (members : List (String × Value)) : Prop where
  | kindMissing (hAbsent : "kind" ∉ members.map Prod.fst)
  | kindUnknown {value : Value} (hKind : ("kind", value) ∈ members)
      (hUnknown : ∀ kind : Kind, value ≠ .string kind.word)
  | nameMissing (hAbsent : "name" ∉ members.map Prod.fst)
  | fragmentPathMissing (hAbsent : "fragment_source_path" ∉ members.map Prod.fst)
  | vertexPathMissing (hKind : ("kind", .string Kind.general.word) ∈ members)
      (hAbsent : "vertex_source_path" ∉ members.map Prod.fst)

/-! ## The parts of a shader -/

/-- What a reader makes of the members of an object that are left: the kind, which may be known
already, and the other members. -/
def partsOf? : (kind? : Option Kind) → List (String × Value) →
    Option (Kind × List (String × Value))
  | kind?, [] => kind?.map (·, [])
  | kind?, (key, value) :: members =>
    if key = "kind" then
      if kind?.isSome then none
      else do
        let kind ← value.asText? >>= Kind.ofWord?
        partsOf? (some kind) members
    else do
      let value ← value.within? partDepth
      let (kind, parts) ← partsOf? kind? members
      return (kind, (key, value) :: parts)

/-- The shader that an object gives. -/
def ofMembers? (members : List (String × Value)) : Option Shader := do
  let (kind, parts) ← partsOf? none members
  (decode kind (.object parts)).toOption

/-- What the members of an object are if they have been read as parts of a shader. -/
structure PartsOf (kind? : Option Kind) (members : List (String × Value)) (kind : Kind)
    (parts : List (String × Value)) : Prop where
  known : ∀ value, ("kind", value) ∈ members → value = .string kind.word
  given : kind? = some kind ∨ kind? = none ∧ "kind" ∈ members.map Prod.fst
  keys : ∀ key ∈ parts.map Prod.fst, key ∈ members.map Prod.fst

theorem Kind.ofWord?_eq_some_iff {word : String} {kind : Kind} :
    ofWord? word = some kind ↔ word = kind.word := by
  constructor
  · intro hKind
    have hWord : kind.word == word := by simpa using List.find?_some hKind
    exact (beq_iff_eq.mp hWord).symm
  · rintro rfl
    cases kind <;> decide

theorem partsOf_of_partsOf? {kind? : Option Kind} {members : List (String × Value)} {kind : Kind}
    {parts : List (String × Value)} (hParts : partsOf? kind? members = some (kind, parts)) :
    PartsOf kind? members kind parts := by
  induction members generalizing kind? kind parts with
  | nil =>
    rw [partsOf?, Option.map_eq_some_iff] at hParts
    obtain ⟨_, hKind, hEq⟩ := hParts
    obtain ⟨rfl, rfl⟩ := Prod.mk.inj hEq
    exact ⟨nofun, .inl hKind, nofun⟩
  | cons member members ih =>
    obtain ⟨key, value⟩ := member
    rw [partsOf?] at hParts
    split at hParts
    · next hKey =>
      subst hKey
      cases kind? with
      | some _ => exact nomatch hParts
      | none =>
        -- The kind that is found here is the one in the end, because a second kind is refused.
        obtain ⟨found, hFound, hParts⟩ := Option.bind_eq_some_iff.mp hParts
        obtain ⟨word, hWord, hKind⟩ := Option.bind_eq_some_iff.mp hFound
        rw [Value.asText?_eq_some_iff, Kind.ofWord?_eq_some_iff.mp hKind] at hWord
        have hLater := ih hParts
        obtain rfl : found = kind := by simpa using hLater.given
        refine ⟨?_, .inr ⟨rfl, List.mem_cons_self⟩, fun other hOther =>
          List.mem_cons_of_mem _ (hLater.keys other hOther)⟩
        intro other hOther
        rcases List.mem_cons.mp hOther with hEq | hOther
        · rw [(Prod.mk.inj hEq).2, hWord]
        · exact hLater.known other hOther
    · next hKey =>
      obtain ⟨part, hPart, hParts⟩ := Option.bind_eq_some_iff.mp hParts
      obtain ⟨⟨_, rest⟩, hRest, hEq⟩ := Option.bind_eq_some_iff.mp hParts
      obtain ⟨rfl, rfl⟩ := Prod.mk.inj (Option.some.inj hEq)
      have hLater := ih hRest
      refine ⟨?known, ?given, ?keys⟩
      case known =>
        intro other hOther
        rcases List.mem_cons.mp hOther with hEq | hOther
        · exact absurd (congrArg Prod.fst hEq).symm hKey
        · exact hLater.known other hOther
      case given =>
        exact hLater.given.imp_right (And.imp_right (List.mem_cons_of_mem key))
      case keys =>
        intro other hOther
        rcases List.mem_cons.mp hOther with rfl | hOther
        · exact List.mem_cons_self
        · exact List.mem_cons_of_mem key (hLater.keys other hOther)

/-- The keys that no object of a kind leaves out. -/
def Kind.requiredKeys : Kind → List String
  | general => GeneralShader.requiredKeys
  | simple => SimpleShader.requiredKeys

theorem decode_missing {kind : Kind} {key : String} {parts : List (String × Value)}
    (hKey : key ∈ kind.requiredKeys) (hAbsent : key ∉ parts.map Prod.fst) :
    ∃ cause, decode kind (.object parts) = .error cause := by
  cases kind with
  | general =>
    obtain ⟨cause, hCause⟩ := decodeMembers_missing GeneralShader.requires hKey hAbsent
      ⟨"", "", "", [], [], []⟩
    exact ⟨cause, by rw [decode, GeneralShader.decode, decodeRecord, hCause]; rfl⟩
  | simple =>
    obtain ⟨cause, hCause⟩ := decodeMembers_missing SimpleShader.requires hKey hAbsent ⟨"", ""⟩
    exact ⟨cause, by rw [decode, SimpleShader.decode, decodeRecord, hCause]; rfl⟩

/-- A defective object gives no shader. -/
theorem ofMembers?_eq_none {members : List (String × Value)} (hDefective : IsDefective members) :
    ofMembers? members = none := by
  cases hParts : partsOf? none members with
  | none => rw [ofMembers?, hParts]; rfl
  | some p =>
    obtain ⟨kind, parts⟩ := p
    have hPartsOf := partsOf_of_partsOf? hParts
    have hGiven : "kind" ∈ members.map Prod.fst := by simpa using hPartsOf.given
    have hNone {key : String} (hKey : key ∈ kind.requiredKeys)
        (hAbsent : key ∉ members.map Prod.fst) : (decode kind (.object parts)).toOption = none := by
      obtain ⟨cause, hCause⟩ := decode_missing hKey fun hPart => hAbsent (hPartsOf.keys key hPart)
      rw [hCause]
      rfl
    have hResult : ofMembers? members = (decode kind (.object parts)).toOption := by
      rw [ofMembers?, hParts]
      rfl
    rw [hResult]
    cases hDefective with
    | kindMissing hAbsent => exact absurd hGiven hAbsent
    | kindUnknown hKind hUnknown => exact absurd (hPartsOf.known _ hKind) (hUnknown kind)
    | nameMissing hAbsent => exact hNone (by cases kind <;> decide) hAbsent
    | fragmentPathMissing hAbsent => exact hNone (by cases kind <;> decide) hAbsent
    | vertexPathMissing hKind hAbsent =>
      have hWord := hPartsOf.known _ hKind
      cases kind with
      | general => exact hNone (by decide) hAbsent
      | simple => exact absurd hWord (by simp [Value.string, Kind.word])

/-! ## Objects that give a shader -/

theorem partsOf?_of_known {kind : Kind} {members : List (String × Value)}
    (hKeys : ∀ member ∈ members, member.1 ≠ "kind")
    (hWithin : ∀ member ∈ members, member.2.within? partDepth = some member.2) :
    partsOf? (some kind) members = some (kind, members) := by
  induction members with
  | nil => rfl
  | cons member members ih =>
    obtain ⟨key, value⟩ := member
    rw [List.forall_mem_cons] at hKeys hWithin
    rw [partsOf?, if_neg hKeys.1, hWithin.1, ih hKeys.2 hWithin.2]
    rfl

/-- The kind is found wherever it stands, and the other members stay in their order. -/
theorem partsOf?_eq_some {kind : Kind} {members : List (String × Value)}
    (hKind : members.filter (·.1 == "kind") = [("kind", .string kind.word)])
    (hWithin : ∀ member ∈ otherMembers members, member.2.within? partDepth = some member.2) :
    partsOf? none members = some (kind, otherMembers members) := by
  induction members with
  | nil => exact nomatch hKind
  | cons member members ih =>
    obtain ⟨key, value⟩ := member
    by_cases hKey : key = "kind"
    -- This is the only kind, so the members behind it are all kept.
    · subst hKey
      rw [List.filter_cons_of_pos (by rfl), List.cons.injEq, List.filter_eq_nil_iff] at hKind
      obtain ⟨hValue, hRest⟩ := hKind
      obtain rfl : value = .string kind.word := (Prod.mk.inj hValue).2
      have hKeys : ∀ member ∈ members, member.1 ≠ "kind" := fun member hMember => by
        simpa using hRest member hMember
      have hOthers : otherMembers (("kind", .string kind.word) :: members) = members := by
        rw [otherMembers, List.filter_cons_of_neg (by simp), List.filter_eq_self]
        exact fun member hMember => bne_iff_ne.mpr (hKeys member hMember)
      rw [hOthers] at hWithin ⊢
      have hFound : ((Value.string kind.word).asText? >>= Kind.ofWord?) = some kind :=
        Kind.ofWord?_eq_some_iff.mpr rfl
      rw [partsOf?, if_pos rfl, Option.isSome_none, if_neg Bool.false_ne_true, hFound]
      exact partsOf?_of_known hKeys hWithin
    · have hOthers : otherMembers ((key, value) :: members) =
          (key, value) :: otherMembers members := List.filter_cons_of_pos (by simpa using hKey)
      rw [List.filter_cons_of_neg (by simpa using hKey)] at hKind
      rw [hOthers, List.forall_mem_cons] at hWithin
      rw [partsOf?, if_neg hKey, hWithin.1, ih hKind hWithin.2, hOthers]
      rfl

theorem within?_of_fieldsGivenBy {shader : Shader} {members : List (String × Value)}
    (hGiven : shader.FieldsGivenBy members) :
    ∀ member ∈ members, member.2.within? partDepth = some member.2 := by
  cases shader with
  | general shader => exact hGiven.within?
  | simple shader => exact hGiven.within?

theorem decode_of_fieldsGivenBy {shader : Shader} {members : List (String × Value)}
    (hGiven : shader.FieldsGivenBy members) :
    decode shader.kind (.object members) = .ok shader := by
  cases shader with
  | general shader => rw [kind, decode, GeneralShader.decode_of_isGivenBy hGiven]; rfl
  | simple shader => rw [kind, decode, SimpleShader.decode_of_isGivenBy hGiven]; rfl

theorem ofMembers?_eq_some {shader : Shader} {members : List (String × Value)}
    (hGiven : shader.IsGivenBy members) : ofMembers? members = some shader := by
  have hParts := partsOf?_eq_some hGiven.kind (within?_of_fieldsGivenBy hGiven.fields)
  have hDecode := decode_of_fieldsGivenBy hGiven.fields
  simp only [ofMembers?, hParts, hDecode, bind, Option.bind]
  rfl

/-! ## Reading -/

theorem Kind.reads_read (value : Value) :
    Reads read value.tokens (value.asText? >>= ofWord?) := by
  intro left text hText
  refine (reads_readStringAs .variant value hText).bind fun word rest hRest => ?_
  dsimp only
  cases ofWord? word with
  | some kind => exact .taken hRest
  | none => exact .stopped _

/-- The members of an object from some member on. -/
theorem outcome_readMembers {members : List (String × Value)} {left : List Token} :
    ∀ kind? isFirst budget text, members.length < budget →
      LaidOut (memberTokens isFirst members ++ .mark '\x7d' :: left) text →
      Outcome (.mark '\x7d' :: left) (partsOf? kind? members)
        (readMembers budget isFirst kind? text) := by
  induction members with
  | nil =>
    intro kind? isFirst budget text hBudget hText
    obtain ⟨budget, rfl⟩ := Nat.exists_eq_add_one.mpr hBudget
    obtain ⟨rest, hEnding, hRest⟩ := LaidOut.nextKey_ending hText isFirst
    simp only [readMembers, hEnding, Except.bind, bind]
    cases kind? with
    | some kind => exact .taken hRest
    | none => exact .stopped _
  | cons member members ih =>
    intro kind? isFirst budget text hBudget hText
    obtain ⟨budget, rfl⟩ := Nat.exists_eq_add_one.mpr (Nat.zero_lt_of_lt hBudget)
    obtain ⟨key, value⟩ := member
    rw [memberTokens] at hText
    simp only [List.append_assoc, List.cons_append] at hText
    obtain ⟨inner, behind, rest, hItem, hKey, hColon, hRest⟩ := LaidOut.nextKey_item hText
    have hLater kind? := fun text => ih kind? false budget text (by simpa using hBudget)
    by_cases hTag : key = "kind"
    · subst hTag
      cases kind? with
      | some kind =>
        simp only [readMembers, hItem, hKey, bind, Except.bind]
        exact .stopped _
      | none =>
        have hStep : readMembers (budget + 1) isFirst none text = Kind.read rest >>= fun p =>
            readMembers budget false (some p.1) p.2 := by
          simp only [readMembers, hItem, hKey, hColon, bind, Except.bind]
          rfl
        rw [hStep]
        exact (Kind.reads_read value hRest).bind fun kind behind => hLater (some kind) behind
    · have hStep : readMembers (budget + 1) isFirst kind? text = readValue partDepth rest >>= fun p =>
          readMembers budget false kind? p.2 >>= fun q =>
            pure ((q.1.1, (key, p.1) :: q.1.2), q.2) := by
        simp only [readMembers, hItem, hKey, hColon, if_neg hTag, bind, Except.bind]
      rw [hStep, partsOf?, if_neg hTag]
      refine (reads_readValue partDepth value hRest).bind fun value behind hBehind => ?_
      exact (hLater kind? behind hBehind).map fun q => (q.1, (key, value) :: q.2)

theorem reads_readParts (members : List (String × Value)) :
    Reads readParts (Value.object members).tokens
      (partsOf? none members >>= fun p => pure (p.1, Value.object p.2)) := by
  intro left text hText
  rw [Value.tokens] at hText
  simp only [List.append_assoc, List.cons_append, List.nil_append] at hText
  obtain ⟨rest, hSkip, hRest⟩ := LaidOut.skipBlanks_mark hText
  have hMembers := outcome_readMembers none true _ rest (length_lt_budget_of_members hRest) hRest
  simp only [readParts, hSkip]
  exact hMembers.inBraces.map fun p => (p.1, Value.object p.2)

/-- An object is read as the shader that it gives. -/
theorem reads_read (members : List (String × Value)) :
    Reads read (Value.object members).tokens (ofMembers? members) := by
  intro left text hText
  have hResult : ofMembers? members = (partsOf? none members >>= fun p =>
      pure (p.1, Value.object p.2)) >>= fun p => (decode p.1 p.2).toOption := by
    rw [ofMembers?]
    cases partsOf? none members <;> rfl
  rw [hResult, read]
  refine (reads_readParts members hText).bind fun p behind hBehind => ?_
  dsimp only
  cases decode p.1 p.2 with
  | ok shader => exact .taken hBehind
  | error cause => exact .stopped _

end Shader

/-! ## Registries -/

namespace Registry

/-- A list of objects is read as their shaders, or not at all if one of them gives no shader. -/
theorem reads_readList_read (objects : List (List (String × Value))) :
    Reads (readList Shader.read) (Value.list (objects.map .object)).tokens
      (objects.mapM Shader.ofMembers?) := by
  have hReads : Reads (readList Shader.read) (Value.list (objects.map .object)).tokens
      ((objects.map Value.object).mapM (Value.asObject? Shader.ofMembers? · >>= id)) := by
    apply reads_readList
    intro element hElement
    obtain ⟨members, -, rfl⟩ := List.mem_map.mp hElement
    exact Shader.reads_read members
  rwa [List.mapM_map] at hReads

theorem parse_of_isGivenBy {registry : Registry} {objects : List (List (String × Value))}
    {text : String} (hText : LaidOut (Value.list (objects.map .object)).tokens text.toList)
    (hGiven : List.Forall₂ Shader.IsGivenBy registry.toList objects) :
    parse text = .ok registry := by
  have hShaders : objects.mapM Shader.ofMembers? = some registry.toList :=
    mapM_of_forall₂ (hGiven.flip.imp fun _ _ => Shader.ofMembers?_eq_some)
  have hReads := reads_readList_read objects
  rw [hShaders] at hReads
  rw [parse, hReads.readAll_eq_ok hText]
  rfl

theorem parse_of_isDefective {objects : List (List (String × Value))} {text : String}
    (hText : LaidOut (Value.list (objects.map .object)).tokens text.toList)
    (hDefective : ∃ members ∈ objects, Shader.IsDefective members) :
    ∃ fault, parse text = .error fault := by
  obtain ⟨members, hMembers, hDefective⟩ := hDefective
  have hReads := reads_readList_read objects
  rw [mapM_eq_none_of_mem hMembers (Shader.ofMembers?_eq_none hDefective)] at hReads
  obtain ⟨fault, hFault⟩ := hReads.readAll_eq_error hText
  exact ⟨fault, by rw [parse, hFault]; rfl⟩

/-- Every document that gives a registry, in any spelling, is read as the registry. A document in
which an object is defective is refused. -/
theorem parse_spelling :
    (∀ (registry : Registry) (objects : List (List (String × Value))) (text : String),
      LaidOut (Value.list (objects.map .object)).tokens text.toList →
        List.Forall₂ Shader.IsGivenBy registry.toList objects → parse text = .ok registry) ∧
      ∀ (objects : List (List (String × Value))) (text : String),
        LaidOut (Value.list (objects.map .object)).tokens text.toList →
          (∃ members ∈ objects, Shader.IsDefective members) →
            ∃ fault, parse text = .error fault :=
  ⟨fun _ _ _ => parse_of_isGivenBy, fun _ _ => parse_of_isDefective⟩

/-- A shader with an empty list of attributes and no uniforms. -/
def sampleShader : GeneralShader :=
  ⟨"water", "water.vert", "water.frag", [], [], [⟨"mode", ["on"]⟩]⟩

/-- The variants stand in front of the name. -/
def sampleGroup : List (String × Value) :=
  [("variants", .list [.string "on"]), ("name", .string "mode")]

/-- The fields are not in their order, with a key that means nothing and without empty lists. -/
def sampleFields : List (String × Value) :=
  [("subroutines", .list [.object sampleGroup]), ("name", .string "water"), ("note", .scalar .null),
    ("fragment_source_path", .string "water.frag"), ("vertex_source_path", .string "water.vert")]

/-- The kind stands at the end. -/
def sampleMembers : List (String × Value) :=
  sampleFields ++ [("kind", .string "general")]

def sampleText : String :=
  "[\x7b\"subroutines\":[\x7b\"variants\":[\"on\"],\"name\":\"mode\"\x7d],\"name\":\"water\"," ++
    "\"note\":null,\"fragment_source_path\":\"water.frag\"," ++
    "\"vertex_source_path\":\"water.vert\",\"kind\":\"general\"\x7d]"

theorem sampleText_laidOut :
    LaidOut (Value.list ([sampleMembers].map .object)).tokens sampleText.toList := by
  have hText : sampleText = (Value.list ([sampleMembers].map .object)).text := by decide +kernel
  rw [hText]
  exact Value.laidOut_text (by decide)

theorem sampleGroup_gives : (⟨"mode", ["on"]⟩ : SubroutineGroup).IsGivenBy sampleGroup where
  isPartial :=
    { once := by decide
      fits := by simp [sampleGroup, SubroutineGroup.givenFields]
      others := by simp [sampleGroup, SubroutineGroup.givenFields] }
  required := by decide

theorem sampleFields_isPartial : IsPartial sampleShader.givenFields sampleFields where
  once := by decide
  fits := by
    have hGroups : List.Forall₂ SubroutineGroup.IsGivenBy sampleShader.groups [sampleGroup] :=
      .cons sampleGroup_gives .nil
    have hSubroutines : ∃ objects, Value.list [.object sampleGroup] = .list (objects.map .object) ∧
        List.Forall₂ SubroutineGroup.IsGivenBy sampleShader.groups objects := ⟨_, rfl, hGroups⟩
    simpa [sampleFields, GeneralShader.givenFields, sampleShader] using hSubroutines
  others := by simp [sampleFields, GeneralShader.givenFields, Value.IsPlain.null]

theorem sampleFields_give : sampleShader.IsGivenBy sampleFields where
  isPartial := sampleFields_isPartial
  required := by decide
  attributes := .inr rfl
  uniforms := .inr rfl
  groups := .inl (by decide)

theorem sampleMembers_give : (Shader.general sampleShader).IsGivenBy sampleMembers where
  kind := by
    have hFields : sampleFields.filter (·.1 == "kind") = [] :=
      List.filter_eq_nil_iff.mpr (by decide)
    rw [sampleMembers, List.filter_append, hFields]
    rfl
  fields := by
    have hFields : sampleFields.filter (·.1 != "kind") = sampleFields :=
      List.filter_eq_self.mpr (by decide)
    have hOthers : Shader.otherMembers sampleMembers = sampleFields := by
      rw [Shader.otherMembers, sampleMembers, List.filter_append, hFields]
      exact List.append_nil sampleFields
    rw [hOthers]
    exact sampleFields_give

/-- A document in an unusual order, and a document whose shader lacks a field. -/
theorem parse_spelling_sample :
    parse sampleText = .ok (ofList [.general sampleShader]) ∧
      ∃ fault, parse "[\x7b\"kind\":\"simple\",\"name\":\"glow\"\x7d]" = .error fault := by
  refine ⟨parse_spelling.1 _ _ _ sampleText_laidOut (.cons sampleMembers_give .nil), ?_⟩
  have hText : "[\x7b\"kind\":\"simple\",\"name\":\"glow\"\x7d]" =
      (Value.list [.object [("kind", .string "simple"), ("name", .string "glow")]]).text := by
    decide +kernel
  refine parse_spelling.2 [[("kind", .string "simple"), ("name", .string "glow")]] _ ?_
    ⟨_, List.mem_cons_self, .fragmentPathMissing (by decide)⟩
  rw [hText]
  exact Value.laidOut_text (by decide)

end Registry

end ShaderHandles
