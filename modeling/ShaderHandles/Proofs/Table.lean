import Mathlib.Data.List.Forall2

/-!
# Tables

A table lists the parts of a record, each under a name of its own. What is listed beside a table has
its partner at the same place.

* `find?_of_nodup`: a part is found by its name.
* `exists_mem_of_forall₂`: what is listed beside a table has a partner in it.
* `mapM_of_forall₂`, `mapM_eq_none_of_mem`: a step that is taken on every part.
-/

namespace ShaderHandles

section

variable {κ : Type} {name : κ → String} {parts : List κ} {part : κ}

theorem find?_of_nodup (hDistinct : (parts.map name).Nodup) (hPart : part ∈ parts) :
    parts.find? (fun other => name other == name part) = some part := by
  induction parts with
  | nil => exact absurd hPart List.not_mem_nil
  | cons first rest ih =>
    rw [List.map_cons, List.nodup_cons] at hDistinct
    rcases List.mem_cons.mp hPart with rfl | hRest
    · exact List.find?_cons_of_pos (beq_self_eq_true _)
    · have hOther : name first ≠ name part := by
        intro hEq
        exact hDistinct.1 (hEq ▸ List.mem_map_of_mem hRest)
      rw [List.find?_cons_of_neg (by simpa using hOther), ih hDistinct.2 hRest]

end

theorem exists_mem_of_forall₂ {α β : Type} {R : α → β → Prop} {first : List α} {second : List β}
    {a : α} (h : List.Forall₂ R first second) (hMem : a ∈ first) : ∃ b ∈ second, R a b := by
  induction h with
  | nil => exact absurd hMem List.not_mem_nil
  | cons hHead _ ih =>
    rcases List.mem_cons.mp hMem with rfl | hMem
    · exact ⟨_, List.mem_cons_self, hHead⟩
    · obtain ⟨b, hb, hRest⟩ := ih hMem
      exact ⟨b, List.mem_cons_of_mem _ hb, hRest⟩

/-- A step that succeeds on every element succeeds on the list. -/
theorem mapM_of_forall₂ {m : Type → Type} [Monad m] [LawfulMonad m] {α β : Type} {f : α → m β}
    {first : List α} {second : List β} (h : List.Forall₂ (fun a b => f a = pure b) first second) :
    first.mapM f = pure second := by
  induction h with
  | nil => rfl
  | cons hHead _ ih => simp [List.mapM_cons, hHead, ih]

/-- A step that fails on one element fails on the list. -/
theorem mapM_eq_none_of_mem {α β : Type} {f : α → Option β} {first : List α} {a : α}
    (hMem : a ∈ first) (hNone : f a = none) : first.mapM f = none := by
  induction first with
  | nil => exact absurd hMem List.not_mem_nil
  | cons head rest ih =>
    rw [List.mapM_cons]
    rcases List.mem_cons.mp hMem with rfl | hRest
    · rw [hNone]
      rfl
    · rw [ih hRest]
      cases f head <;> rfl

end ShaderHandles
