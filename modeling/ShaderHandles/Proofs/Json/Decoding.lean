import ShaderHandles.Proofs.Json.Override

/-!
# Objects that hold a record

A record is decoded from the members of an object, whatever their order. An object is refused if it
lacks a required field, and taken if it has all of them, no field twice, and no value of a wrong kind.

* `decodeMembers_missing`: an object without a required field.
* `decodeMembers_of_isPartial`: an object with all required fields.
* `Slot.takes_text`, `Slot.takes_texts`, `Slot.takes_ofDecoder`: fields of one kind.
-/

namespace ShaderHandles.Json

section

variable {σ : Type} {slots : List (Slot σ)} {members : List (String × Value)}

/-! ## Required fields -/

theorem mem_seen_of_decodeMember {member : String × Value} {state next : σ × List String}
    (hMember : decodeMember slots state member = .ok next) (key : String) :
    key ∈ next.2 ↔ key ∈ state.2 ∨ key ∈ slots.map Slot.key ∧ key = member.1 := by
  unfold decodeMember at hMember
  split at hMember
  · next hFind =>
    obtain rfl : state = next := Except.ok.inj hMember
    refine ⟨.inl, ?_⟩
    rintro (hSeen | ⟨hKey, rfl⟩)
    · exact hSeen
    · obtain ⟨slot, hSlot, hName⟩ := List.mem_map.mp hKey
      exact absurd (beq_iff_eq.mpr hName) (List.find?_eq_none.mp hFind slot hSlot)
  · next slot hFind =>
    have hSlot := List.mem_of_find?_eq_some hFind
    have hName : slot.key = member.1 := by simpa using List.find?_some hFind
    have hField : member.1 ∈ slots.map Slot.key := hName ▸ List.mem_map_of_mem hSlot
    split at hMember
    · exact nomatch hMember
    · cases hDecode : slot.decode state.1 member.2 with
      | error cause => rw [hDecode] at hMember; exact nomatch hMember
      | ok record =>
        rw [hDecode] at hMember
        obtain rfl : (record, member.1 :: state.2) = next := Except.ok.inj hMember
        rw [List.mem_cons, or_comm]
        exact or_congr_right ⟨fun hKey => ⟨hKey ▸ hField, hKey⟩, And.right⟩

/-- The keys that have been seen after the members are the fields among the keys of the members. -/
theorem mem_seen_of_foldlM {state next : σ × List String}
    (hFold : members.foldlM (decodeMember slots) state = .ok next) (key : String) :
    key ∈ next.2 ↔ key ∈ state.2 ∨ key ∈ slots.map Slot.key ∧ key ∈ members.map Prod.fst := by
  induction members generalizing state with
  | nil =>
    obtain rfl : state = next := Except.ok.inj hFold
    simp
  | cons member members ih =>
    rw [List.foldlM_cons] at hFold
    cases hMember : decodeMember slots state member with
    | error cause => rw [hMember] at hFold; exact nomatch hFold
    | ok middle =>
      rw [hMember] at hFold
      rw [ih hFold, mem_seen_of_decodeMember hMember, or_assoc, ← and_or_left, List.map_cons,
        List.mem_cons]

/-- The keys of the fields that must be there. -/
def Slot.Requires (slots : List (Slot σ)) (keys : List String) : Prop :=
  ∀ key, key ∈ keys ↔ ∃ slot ∈ slots, slot.isRequired = true ∧ key = slot.key

variable {required : List String}

theorem decodeMembers_missing {key : String} (hRequires : Slot.Requires slots required)
    (hKey : key ∈ required) (hAbsent : key ∉ members.map Prod.fst) (start : σ) :
    ∃ cause, decodeMembers slots start members = .error cause := by
  obtain ⟨slot, hSlot, hRequired, rfl⟩ := (hRequires key).mp hKey
  unfold decodeMembers
  cases hFold : members.foldlM (decodeMember slots) (start, []) with
  | error cause => exact ⟨cause, rfl⟩
  | ok state =>
    -- Some required field is missed at the end, though perhaps another one than this.
    have hUnseen : slot.key ∉ state.2 := by
      simp [mem_seen_of_foldlM hFold, hAbsent]
    have hFind : (slots.find? fun slot => slot.isRequired && !state.2.contains slot.key).isSome := by
      rw [List.find?_isSome]
      exact ⟨slot, hSlot, by simp [hRequired, hUnseen]⟩
    obtain ⟨missing, hMissing⟩ := Option.isSome_iff_exists.mp hFind
    exact ⟨.missingField missing.key, by simp only [bind, Except.bind, hMissing]; rfl⟩

/-! ## All fields -/

/-- A field of a record reads a value into the record. -/
def Slot.Takes (slot : Slot σ) (value : Value) (record next : σ) : Prop :=
  slot.decode record value = .ok next

variable {fields : List (String × (Value → Prop))} {merge : σ → List (String × Value) → σ}

theorem foldlM_decodeMember_of_isPartial (hMerges : Merges Slot.key Slot.Takes fields slots merge)
    (hMembers : IsPartial fields members) :
    ∀ record seen, (∀ key ∈ members.map Prod.fst, key ∈ fields.map Prod.fst → key ∉ seen) →
      ∃ later, members.foldlM (decodeMember slots) (record, seen) =
        .ok (merge record members, later) := by
  induction members with
  | nil =>
    intro record seen _
    exact ⟨seen, by rw [hMerges.nil]; rfl⟩
  | cons member members ih =>
    intro record seen hUnseen
    obtain ⟨key, value⟩ := member
    rw [List.foldlM_cons]
    by_cases hField : key ∈ fields.map Prod.fst
    · obtain ⟨slot, next, hFind, hTakes, hMerge⟩ := hMerges.exists_part hMembers hField record
      have hNew : key ∉ seen := hUnseen key List.mem_cons_self hField
      have hMember : decodeMember slots (record, seen) (key, value) = .ok (next, key :: seen) := by
        have hDecode : slot.decode record value = .ok next := hTakes
        simp only [decodeMember, hFind, if_neg hNew, hDecode, bind, Except.bind]
        rfl
      have hLater : ∀ other ∈ members.map Prod.fst, other ∈ fields.map Prod.fst →
          other ∉ key :: seen := by
        intro other hOther hOtherField hSeen
        rcases List.mem_cons.mp hSeen with rfl | hSeen
        · exact hMembers.head_absent hField hOther
        · exact hUnseen other (List.mem_cons_of_mem key hOther) hOtherField hSeen
      obtain ⟨later, hFold⟩ := ih hMembers.tail next (key :: seen) hLater
      exact ⟨later, by rw [hMember, ← hMerge]; exact hFold⟩
    · have hMember : decodeMember slots (record, seen) (key, value) = .ok (record, seen) := by
        simp only [decodeMember, hMerges.find?_eq_none hField]
      obtain ⟨later, hFold⟩ := ih hMembers.tail record seen fun other hOther =>
        hUnseen other (List.mem_cons_of_mem key hOther)
      exact ⟨later, by rw [hMember, hMerges.other key value members record hField]; exact hFold⟩

theorem decodeMembers_of_isPartial (hMerges : Merges Slot.key Slot.Takes fields slots merge)
    (hRequires : Slot.Requires slots required) (hMembers : IsPartial fields members)
    (hGiven : ∀ key ∈ required, key ∈ members.map Prod.fst) (start : σ) :
    decodeMembers slots start members = .ok (merge start members) := by
  obtain ⟨seen, hFold⟩ := foldlM_decodeMember_of_isPartial hMerges hMembers start [] nofun
  have hFind : (slots.find? fun slot => slot.isRequired && !seen.contains slot.key) = none := by
    rw [List.find?_eq_none]
    intro slot hSlot hMissing
    rw [Bool.and_eq_true] at hMissing
    have hKey := hGiven slot.key ((hRequires slot.key).mpr ⟨slot, hSlot, hMissing.1, rfl⟩)
    have hSeen := (mem_seen_of_foldlM hFold slot.key).mpr (.inr ⟨List.mem_map_of_mem hSlot, hKey⟩)
    simp [hSeen] at hMissing
  simp only [decodeMembers, hFold, hFind, bind, Except.bind]
  rfl

end

/-! ## Fields -/

namespace Slot

variable {σ α : Type}

theorem takes_ofDecoder {key : String} {isRequired : Bool} {decode : Value → Except Cause α}
    {write : α → Value} {get : σ → α} {set : σ → α → σ} {value : Value} {a : α}
    (hDecode : decode value = .ok a) (record : σ) :
    (ofDecoder key isRequired decode write get set).Takes value record (set record a) := by
  simp only [Takes, ofDecoder, hDecode]
  rfl

theorem takes_text {key : String} {get : σ → String} {set : σ → String → σ} (s : String)
    (record : σ) : (text key get set).Takes (.string s) record (set record s) :=
  takes_ofDecoder (show decodeText (.string s) = .ok s from rfl) record

end Slot

theorem decodeList_of_forall₂ {α : Type} {decode : Value → Except Cause α} {elements : List Value}
    {as : List α} (h : List.Forall₂ (fun element a => decode element = .ok a) elements as) :
    decodeList decode (.list elements) = .ok as :=
  mapM_of_forall₂ h

theorem Slot.takes_texts {σ : Type} {key : String} {isRequired : Bool} {get : σ → List String}
    {set : σ → List String → σ} (names : List String) (record : σ) :
    (texts key isRequired get set).Takes (.list (names.map .string)) record (set record names) := by
  refine takes_ofDecoder (decodeList_of_forall₂ ?_) record
  rw [List.forall₂_map_left_iff]
  exact List.forall₂_same.mpr fun _ _ => rfl

end ShaderHandles.Json
