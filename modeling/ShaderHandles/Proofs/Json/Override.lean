import Mathlib.Data.List.Nodup
import ShaderHandles.Json.Record
import ShaderHandles.Proofs.Json.Outcome

/-!
# Objects that give some fields of a record

An object may give some fields of a record, in any order and among other members. A reader goes
through the members and changes the record with each. What comes out is described by one function on
the whole list of members, `merge`, and a table of fields is right for it if each of its parts makes
the change that `merge` makes at a member of its key.

* `IsPartial`: the objects that give some fields, each at most once.
* `Merges`: a table of fields makes the changes of a function on the members.
* `reads_readRecord`: an object is read as what this function gives, in every layout.
* `Key.takes_text`, `Key.takes_flag`, `Key.takes_texts`, `Key.takes_ofRecord`: fields of one kind.
-/

namespace ShaderHandles.Json

/-! ## Members of an object -/

/-- A truth value, a string, or nothing. -/
inductive Value.IsPlain : Value → Prop where
  | null : IsPlain (.scalar .null)
  | boolean (b : Bool) : IsPlain (.boolean b)
  | string (s : String) : IsPlain (.string s)

theorem Value.IsPlain.within? {value : Value} (hPlain : value.IsPlain) (room : Nat) :
    value.within? room = some value := by
  cases hPlain <;> exact Value.within?_scalar room _

/-- The members of an object of which some give fields of a record. `fields` holds the keys of the
fields with the values that they may have. The members come in any order. -/
structure IsPartial (fields : List (String × (Value → Prop))) (members : List (String × Value)) :
    Prop where
  /-- No field is given twice. -/
  once : members.Pairwise fun first second => first.1 ∈ fields.map Prod.fst → first.1 ≠ second.1
  fits : ∀ member ∈ members, ∀ field ∈ fields, member.1 = field.1 → field.2 member.2
  /-- Every other member has a value without parts. -/
  others : ∀ member ∈ members, member.1 ∉ fields.map Prod.fst → member.2.IsPlain

namespace IsPartial

variable {fields : List (String × (Value → Prop))} {members : List (String × Value)}
  {member : String × Value}

theorem tail (hMembers : IsPartial fields (member :: members)) : IsPartial fields members where
  once := (List.pairwise_cons.mp hMembers.once).2
  fits other hOther := hMembers.fits other (List.mem_cons_of_mem member hOther)
  others other hOther := hMembers.others other (List.mem_cons_of_mem member hOther)

/-- An object that gives every field, in order. -/
theorem of_forall₂ (hDistinct : (fields.map Prod.fst).Nodup)
    (hMembers : List.Forall₂ (fun field member => member.1 = field.1 ∧ field.2 member.2) fields
      members) : IsPartial fields members := by
  have hKeys : members.map Prod.fst = fields.map Prod.fst := by
    clear hDistinct
    induction hMembers with
    | nil => rfl
    | cons hHead _ ih => rw [List.map_cons, List.map_cons, hHead.1, ih]
  refine ⟨?once, ?fits, ?others⟩
  case once =>
    rw [← hKeys, List.Nodup, List.pairwise_map] at hDistinct
    refine hDistinct.imp ?_
    intro first second hNe _
    exact hNe
  case fits =>
    intro member hMember field hField hKey
    obtain ⟨other, hOther, hFits⟩ := exists_mem_of_forall₂ hMembers hField
    have hSame := List.inj_on_of_nodup_map (hKeys ▸ hDistinct) hMember hOther
      (hKey.trans hFits.1.symm)
    exact hSame ▸ hFits.2
  case others =>
    intro member hMember hOther
    exact absurd (hKeys ▸ List.mem_map_of_mem hMember) hOther

/-- A field that is given by the first member is given by no later one. -/
theorem head_absent (hMembers : IsPartial fields (member :: members))
    (hField : member.1 ∈ fields.map Prod.fst) : member.1 ∉ members.map Prod.fst := by
  intro hMem
  obtain ⟨other, hOther, hKey⟩ := List.mem_map.mp hMem
  exact (List.pairwise_cons.mp hMembers.once).1 other hOther hField hKey.symm

/-- Where no field is too deep, no value of the object is. -/
theorem within? (hMembers : IsPartial fields members) {room : Nat}
    (hFields : ∀ field ∈ fields, ∀ value, field.2 value → value.within? room = some value) :
    ∀ member ∈ members, member.2.within? room = some member.2 := by
  intro member hMember
  by_cases hField : member.1 ∈ fields.map Prod.fst
  · obtain ⟨field, hField, hKey⟩ := List.mem_map.mp hField
    exact hFields field hField _ (hMembers.fits member hMember field hField hKey.symm)
  · exact (hMembers.others member hMember hField).within? room

end IsPartial

/-- The field of a record under a key: what the member of this key gives, or else the field as it
was. -/
def fieldOr {α : Type} (given : Value → Option α) (members : List (String × Value)) (key : String)
    (field : α) : α :=
  ((members.lookup key).bind given).getD field

section

variable {α : Type} {given : Value → Option α} {members : List (String × Value)} {key : String}
  {field : α}

@[simp] theorem fieldOr_nil : fieldOr given [] key field = field := rfl

@[simp] theorem fieldOr_cons (other : String) (value : Value) :
    fieldOr given ((other, value) :: members) key field =
      if other = key then (given value).getD field else fieldOr given members key field := by
  by_cases hKey : other = key
  · subst hKey
    simp [fieldOr, List.lookup_cons_self]
  · rw [if_neg hKey]
    simp only [fieldOr, List.lookup_cons, beq_eq_false_iff_ne.mpr (Ne.symm hKey)]

theorem fieldOr_of_absent (hAbsent : key ∉ members.map Prod.fst) :
    fieldOr given members key field = field := by
  have hLookup : members.lookup key = none := by
    rw [List.lookup_eq_none_iff]
    intro member hMember
    rw [bne_iff_ne]
    rintro rfl
    exact hAbsent (List.mem_map_of_mem hMember)
  rw [fieldOr, hLookup]
  rfl

/-- A field that is given one value, and that is left out only if it has this value anyway. -/
theorem fieldOr_of_mem_or_eq {a : α} (h : key ∈ members.map Prod.fst ∨ a = field) :
    fieldOr (fun _ => some a) members key field = a := by
  rcases h with hMem | rfl
  · induction members with
    | nil => exact absurd hMem List.not_mem_nil
    | cons member rest ih =>
      rw [List.map_cons, List.mem_cons] at hMem
      rw [fieldOr_cons]
      split
      · rfl
      · next hKey => exact ih (hMem.resolve_left (Ne.symm hKey))
  · rw [fieldOr]
    cases members.lookup key <;> rfl

end

/-! ## Tables of fields -/

/-- A table describes a record: `merge` puts what the members of an object give into a record, and
each part of the table takes the value of its field to this effect, whichever members come later. -/
structure Merges {κ σ : Type} (name : κ → String) (Takes : κ → Value → σ → σ → Prop)
    (fields : List (String × (Value → Prop))) (parts : List κ)
    (merge : σ → List (String × Value) → σ) : Prop where
  distinct : (fields.map Prod.fst).Nodup
  nil : ∀ record, merge record [] = record
  other : ∀ key value members record, key ∉ fields.map Prod.fst →
    merge record ((key, value) :: members) = merge record members
  parts : List.Forall₂ (fun field part => name part = field.1 ∧
    ∀ value members record, field.2 value → field.1 ∉ members.map Prod.fst →
      ∃ next, Takes part value record next ∧
        merge next members = merge record ((field.1, value) :: members)) fields parts

namespace Merges

variable {κ σ : Type} {name : κ → String} {Takes : κ → Value → σ → σ → Prop}
  {fields : List (String × (Value → Prop))} {parts : List κ}
  {merge : σ → List (String × Value) → σ}

theorem map_name (hMerges : Merges name Takes fields parts merge) :
    parts.map name = fields.map Prod.fst := by
  have hParts := hMerges.parts
  clear hMerges
  induction hParts with
  | nil => rfl
  | cons hHead _ ih => rw [List.map_cons, List.map_cons, hHead.1, ih]

/-- The first member of an object gives a field: its part of the table is found and takes the value. -/
theorem exists_part (hMerges : Merges name Takes fields parts merge) {key : String} {value : Value}
    {members : List (String × Value)} (hMembers : IsPartial fields ((key, value) :: members))
    (hKey : key ∈ fields.map Prod.fst) (record : σ) :
    ∃ part next, parts.find? (name · == key) = some part ∧ Takes part value record next ∧
      merge next members = merge record ((key, value) :: members) := by
  obtain ⟨field, hField, rfl⟩ := List.mem_map.mp hKey
  obtain ⟨part, hPart, hName, hTakes⟩ := exists_mem_of_forall₂ hMerges.parts hField
  have hDistinct : (parts.map name).Nodup := hMerges.map_name ▸ hMerges.distinct
  have hFind := find?_of_nodup hDistinct hPart
  rw [hName] at hFind
  obtain ⟨next, hNext, hMerge⟩ := hTakes value members record
    (hMembers.fits _ List.mem_cons_self field hField rfl) (hMembers.head_absent hKey)
  exact ⟨part, next, hFind, hNext, hMerge⟩

theorem find?_eq_none (hMerges : Merges name Takes fields parts merge) {key : String}
    (hKey : key ∉ fields.map Prod.fst) : parts.find? (name · == key) = none := by
  rw [← hMerges.map_name] at hKey
  rw [List.find?_eq_none]
  intro part hPart hName
  exact hKey (beq_iff_eq.mp hName ▸ List.mem_map_of_mem hPart)

end Merges

/-! ## Records of the text -/

/-- A key of a record reads a value into the record. -/
def Key.Takes {σ : Type} (key : Key σ) (value : Value) (record next : σ) : Prop :=
  Reads (key.read record) value.tokens (some next)

/-- The value of an unknown key is skipped. -/
theorem skipValue_of_isPlain {value : Value} (hPlain : value.IsPlain) {left : List Token}
    {text : List Char} (hText : LaidOut (value.tokens ++ left) text) :
    ∃ rest, skipValue text = .ok rest ∧ LaidOut left rest := by
  cases hPlain with
  | null =>
    rw [Value.tokens] at hText
    obtain ⟨form, rest, hForm, hSkip, hRest⟩ := LaidOut.skipBlanks_cons hText
    cases hForm with
    | null => exact ⟨rest, by simp only [skipValue, skipNested, hSkip]; rfl, hRest⟩
  | boolean b =>
    rw [Value.boolean, Value.tokens] at hText
    obtain ⟨form, rest, hForm, hSkip, hRest⟩ := LaidOut.skipBlanks_cons hText
    cases hForm with
    | true => exact ⟨rest, by simp only [skipValue, skipNested, hSkip]; rfl, hRest⟩
    | false => exact ⟨rest, by simp only [skipValue, skipNested, hSkip]; rfl, hRest⟩
  | string s =>
    rw [Value.string, Value.tokens] at hText
    obtain ⟨inner, rest, hSkip, -, hString, hRest⟩ := LaidOut.skipBlanks_string hText
    exact ⟨rest, by simp only [skipValue, skipNested, hSkip, hString], hRest⟩

section

variable {σ : Type} {fields : List (String × (Value → Prop))} {keys : List (Key σ)}
  {merge : σ → List (String × Value) → σ}

/-- The members of an object from some member on. No field that they give was seen before. -/
theorem outcome_readKeys (hMerges : Merges Key.name Key.Takes fields keys merge)
    {members : List (String × Value)} {left : List Token} (hMembers : IsPartial fields members) :
    ∀ isFirst budget seen record text, members.length < budget →
      (∀ key ∈ members.map Prod.fst, key ∈ fields.map Prod.fst → key ∉ seen) →
      LaidOut (memberTokens isFirst members ++ .mark '\x7d' :: left) text →
      Outcome (.mark '\x7d' :: left) (some (merge record members))
        (readKeys keys budget isFirst seen record text) := by
  induction members with
  | nil =>
    intro isFirst budget seen record text hBudget hUnseen hText
    obtain ⟨budget, rfl⟩ := Nat.exists_eq_add_one.mpr hBudget
    obtain ⟨rest, hEnding, hRest⟩ := LaidOut.nextKey_ending hText isFirst
    simp only [readKeys, hEnding, Except.bind, bind, hMerges.nil]
    exact .taken hRest
  | cons member members ih =>
    intro isFirst budget seen record text hBudget hUnseen hText
    obtain ⟨budget, rfl⟩ := Nat.exists_eq_add_one.mpr (Nat.zero_lt_of_lt hBudget)
    obtain ⟨key, value⟩ := member
    rw [memberTokens] at hText
    simp only [List.append_assoc, List.cons_append] at hText
    obtain ⟨inner, behind, rest, hItem, hKey, hColon, hRest⟩ := LaidOut.nextKey_item hText
    have hNext := ih hMembers.tail false budget
    by_cases hField : key ∈ fields.map Prod.fst
    -- A field changes the record, and its key is seen from here on.
    · obtain ⟨part, next, hFind, hTakes, hMerge⟩ :=
        hMerges.exists_part hMembers hField record
      have hNew : key ∉ seen := hUnseen key List.mem_cons_self hField
      obtain ⟨behind, hRead, hBehind⟩ := (hTakes hRest).eq_ok
      have hStep : readKeys keys (budget + 1) isFirst seen record text =
          readKeys keys budget false (key :: seen) next behind := by
        simp only [readKeys, hItem, hKey, hFind, if_neg hNew, hColon, hRead, bind, Except.bind]
      rw [hStep, ← hMerge]
      refine hNext (key :: seen) next behind (by simpa using hBudget) ?_ hBehind
      intro other hOther hOtherField hSeen
      rcases List.mem_cons.mp hSeen with rfl | hSeen
      · exact hMembers.head_absent hField hOther
      · exact hUnseen other (List.mem_cons_of_mem key hOther) hOtherField hSeen
    -- The value of any other key is skipped.
    · have hFind := hMerges.find?_eq_none hField
      have hPlain := hMembers.others _ List.mem_cons_self hField
      obtain ⟨behind, hSkip, hBehind⟩ := skipValue_of_isPlain hPlain hRest
      have hStep : readKeys keys (budget + 1) isFirst seen record text =
          readKeys keys budget false seen record behind := by
        simp only [readKeys, hItem, hKey, hFind, hColon, hSkip, bind, Except.bind]
      rw [hStep, hMerges.other key value members record hField]
      refine hNext seen record behind (by simpa using hBudget) ?_ hBehind
      exact fun other hOther => hUnseen other (List.mem_cons_of_mem key hOther)

/-- An object that gives some fields is read as the record that starts from `start` and has them. -/
theorem reads_readRecord (hMerges : Merges Key.name Key.Takes fields keys merge) (name : String)
    (start : σ) {members : List (String × Value)} (hMembers : IsPartial fields members) :
    Reads (readRecord name keys start) (Value.object members).tokens
      (some (merge start members)) := by
  intro left text hText
  rw [Value.tokens] at hText
  simp only [List.append_assoc, List.cons_append, List.nil_append] at hText
  obtain ⟨rest, hSkip, hRest⟩ := LaidOut.skipBlanks_mark hText
  have hKeys := outcome_readKeys hMerges hMembers true _ [] start rest
    (length_lt_budget_of_members hRest) (fun _ _ _ => List.not_mem_nil) hRest
  simp only [readRecord, hSkip]
  exact hKeys.inBraces

end

/-! ## Fields of one kind -/

namespace Value

/-- The truth value that a value is. -/
def asFlag? : Value → Option Bool
  | .scalar (.boolean b) => some b
  | _ => none

/-- The strings that a list holds. -/
def asTexts? : Value → Option (List String)
  | .list elements => elements.mapM asText?
  | _ => none

/-- What the members of an object are taken for. -/
def asObject? {α : Type} (make : List (String × Value) → α) : Value → Option α
  | .object members => some (make members)
  | _ => none

def IsText (value : Value) : Prop := ∃ s, value = .string s

def IsFlag (value : Value) : Prop := ∃ b, value = .boolean b

/-- A list of strings. -/
def IsTexts (value : Value) : Prop := ∃ names : List String, value = .list (names.map .string)

def IsObject (accepts : List (String × Value) → Prop) (value : Value) : Prop :=
  ∃ members, value = .object members ∧ accepts members

theorem mapM_asText? (names : List String) : (names.map Value.string).mapM asText? = some names := by
  induction names with
  | nil => rfl
  | cons name names ih =>
    rw [List.map_cons, List.mapM_cons, ih]
    rfl

@[simp] theorem asText?_string (s : String) : (Value.string s).asText? = some s := rfl

@[simp] theorem asFlag?_boolean (b : Bool) : (Value.boolean b).asFlag? = some b := rfl

@[simp] theorem asTexts?_list (names : List String) :
    (Value.list (names.map .string)).asTexts? = some names := mapM_asText? names

@[simp] theorem asObject?_object {α : Type} (make : List (String × Value) → α)
    (members : List (String × Value)) : (Value.object members).asObject? make = some (make members) :=
  rfl

end Value

namespace Key

variable {σ α : Type}

theorem takes_ofReader {name : String} {read : List Char → Except Stop (Left α)} {write : α → Value}
    {get : σ → α} {set : σ → α → σ} {value : Value} {a : α}
    (hReads : Reads read value.tokens (some a)) (record : σ) :
    (ofReader name read write get set).Takes value record (set record a) :=
  fun _ _ hText => (hReads hText).map (set record)

theorem takes_text {name : String} {get : σ → String} {set : σ → String → σ} (s : String)
    (record : σ) : (text name get set).Takes (.string s) record (set record s) :=
  takes_ofReader (reads_readStringAs .string (.string s)) record

theorem takes_flag {name : String} {get : σ → Bool} {set : σ → Bool → σ} (b : Bool) (record : σ) :
    (flag name get set).Takes (.boolean b) record (set record b) :=
  takes_ofReader (reads_readFlag b) record

theorem takes_texts {name : String} {get : σ → List String} {set : σ → List String → σ}
    (names : List String) (record : σ) :
    (texts name get set).Takes (.list (names.map .string)) record (set record names) := by
  refine takes_ofReader ?_ record
  rw [← Value.mapM_asText? names]
  exact reads_readList fun value _ => reads_readStringAs .string value

/-- A field that is a record of its own starts from that record's defaults. -/
theorem takes_ofRecord {τ : Type} {name record : String} {keys : List (Key τ)} {start : τ}
    {get : σ → τ} {set : σ → τ → σ} {fields : List (String × (Value → Prop))}
    {merge : τ → List (String × Value) → τ} (hMerges : Merges Key.name Takes fields keys merge)
    {members : List (String × Value)} (hMembers : IsPartial fields members) (before : σ) :
    (ofRecord name record keys start get set).Takes (.object members) before
      (set before (merge start members)) :=
  takes_ofReader (reads_readRecord hMerges record start hMembers) before

end Key

end ShaderHandles.Json
