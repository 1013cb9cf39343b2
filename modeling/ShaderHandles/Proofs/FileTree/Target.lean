import ShaderHandles.FileTree.Basic

/-!
# Where a path leads to

Reading a file and writing it look a path up in ways of their own. Both agree: a path reads as a file
exactly when a write to it would go to a location that holds that file. A write changes neither the
directories nor where any path leads to, because it puts a file where no directory is.

* `FileTree.read?_eq_some_iff`: reading a path is reading its target.
* `FileTree.target_insert_iff`: the targets after a write are the targets before it.
-/

namespace ShaderHandles.FileTree

variable {tree : FileTree} {path : String} {location : Location} {bytes : ByteArray}

/-! ## The last name -/

/-- Names that do not end with an empty one lose nothing when empty names are dropped at the end. -/
theorem dropWhile_reverse_eq {names : List String} (hLast : names.getLast? ≠ some "") :
    (names.reverse.dropWhile (· == "")).reverse = names := by
  cases hReverse : names.reverse with
  | nil => simpa using hReverse.symm
  | cons last rest =>
    have hNames : names = (last :: rest).reverse := by rw [← hReverse, List.reverse_reverse]
    have hNonempty : last ≠ "" := by
      rintro rfl
      exact hLast (by simp [hNames])
    simp [hNonempty, hNames]

theorem getLast?_ne_of_not_isDots {names : List String} (hDots : isDots (names.getLastD "") = false) :
    names.getLast? ≠ some "" := by
  intro hLast
  rw [List.getLastD_eq_getLast?, hLast] at hDots
  exact absurd hDots (by decide)

/-! ## Reading and writing look at the same place -/

/-- A path names a location if its directories are there and its last name can be looked up. -/
inductive Names (tree : FileTree) (path : String) : Location → Prop where
  | intro {parts : List String} {parent : Location} (hParts : names path = .ok parts)
    (hWalk : tree.walk [] parts.dropLast = .ok parent)
    (hDots : isDots (parts.getLastD "") = false)
    (hLength : ¬nameLimit < (parts.getLastD "").utf8ByteSize) :
    Names tree path (parent ++ [parts.getLastD ""])

theorem Names.ne_nil (h : Names tree path location) : location ≠ [] := by
  cases h
  simp

/-- The target of a path is the location that it names, unless a directory is there. -/
theorem target_eq_ok_iff :
    tree.target path = .ok location ↔
      Names tree path location ∧ tree.get? location ≠ some .directory := by
  unfold target
  constructor
  · intro hTarget
    cases hParts : names path with
    | error fault =>
      rw [hParts] at hTarget
      exact nomatch hTarget
    | ok parts =>
      by_cases hLast : parts.getLast? = some ""
      · rw [hParts] at hTarget
        simp only [bind, Except.bind, hLast] at hTarget
        split at hTarget <;> simp_all
      · rw [hParts] at hTarget
        simp only [bind, Except.bind, dropWhile_reverse_eq hLast, hLast, decide_false,
          Bool.false_or] at hTarget
        cases hWalk : tree.walk [] parts.dropLast with
        | error fault =>
          rw [hWalk] at hTarget
          exact nomatch hTarget
        | ok parent =>
          rw [hWalk] at hTarget
          simp only at hTarget
          split at hTarget
          · exact nomatch hTarget
          · next hDots =>
            split at hTarget
            · exact nomatch hTarget
            · next hLength =>
              split at hTarget
              · exact nomatch hTarget
              · next hNode =>
                cases hTarget
                exact ⟨.intro hParts hWalk (Bool.not_eq_true _ ▸ hDots) hLength, hNode⟩
  · rintro ⟨⟨hParts, hWalk, hDots, hLength⟩, hNode⟩
    have hLast := getLast?_ne_of_not_isDots hDots
    rw [hParts]
    simp only [bind, Except.bind, dropWhile_reverse_eq hLast, hWalk, hDots, hLast, hLength,
      decide_false, Bool.or_self, Bool.false_eq_true, if_false]
    rfl

/-- A path leads to a file exactly when it names the location of that file. -/
theorem find_eq_file_iff :
    tree.find path = .ok (.file bytes) ↔
      ∃ location, Names tree path location ∧ tree.get? location = some (.file bytes) := by
  unfold find
  constructor
  · intro hFind
    cases hParts : names path with
    | error fault =>
      rw [hParts] at hFind
      exact nomatch hFind
    | ok parts =>
      rw [hParts] at hFind
      simp only [bind, Except.bind] at hFind
      cases hWalk : tree.walk [] parts.dropLast with
      | error fault =>
        rw [hWalk] at hFind
        exact nomatch hFind
      | ok parent =>
        rw [hWalk] at hFind
        simp only at hFind
        split at hFind
        · exact nomatch hFind
        · next hDots =>
          split at hFind
          · exact nomatch hFind
          · next hLength =>
            split at hFind
            · next node hNode =>
              cases hFind
              exact ⟨_, .intro hParts hWalk (Bool.not_eq_true _ ▸ hDots) hLength, hNode⟩
            · exact nomatch hFind
  · rintro ⟨_, ⟨hParts, hWalk, hDots, hLength⟩, hNode⟩
    rw [hParts]
    simp only [bind, Except.bind, hWalk, hDots, hLength, hNode, Bool.false_eq_true, if_false]
    rfl

/-- Reading a path is reading its target. -/
theorem read?_eq_some_iff :
    tree.read? path = some bytes ↔
      ∃ location, tree.target path = .ok location ∧ tree.get? location = some (.file bytes) := by
  have hRead : tree.read? path = some bytes ↔ tree.find path = .ok (.file bytes) := by
    unfold read?
    split
    · next found hFind => rw [hFind, Option.some.injEq, Except.ok.injEq, Node.file.injEq]
    · next hOther =>
      constructor
      · exact fun hNone => nomatch hNone
      · exact fun hFile => absurd hFile (hOther bytes)
  rw [hRead, find_eq_file_iff]
  constructor
  · rintro ⟨location, hNames, hNode⟩
    refine ⟨location, target_eq_ok_iff.mpr ⟨hNames, ?_⟩, hNode⟩
    rw [hNode]
    exact fun hEq => nomatch hEq
  · rintro ⟨location, hTarget, hNode⟩
    exact ⟨location, (target_eq_ok_iff.mp hTarget).1, hNode⟩

/-! ## A write keeps directories -/

theorem get?_insert_eq_directory_iff {other : Location} (hLocation : location ≠ [])
    (hNode : tree.get? location ≠ some .directory) :
    (tree.insert location (.file bytes)).get? other = some .directory ↔
      tree.get? other = some .directory := by
  by_cases hSame : other = location
  · subst hSame
    rw [get?_insert_self tree _ hLocation]
    exact iff_of_false (fun hEq => nomatch hEq) hNode
  · rw [get?_insert_of_ne tree _ hSame]

/-- One step of a walk goes to the same directory after a file is put where none is. -/
theorem step_insert_iff {parent next : Location} {name : String} (hLocation : location ≠ [])
    (hNode : tree.get? location ≠ some .directory) :
    (tree.insert location (.file bytes)).step parent name = .ok next ↔
      tree.step parent name = .ok next := by
  have hDirectory : (tree.insert location (.file bytes)).get? (parent ++ [name]) = some .directory ↔
      tree.get? (parent ++ [name]) = some .directory :=
    get?_insert_eq_directory_iff hLocation hNode
  unfold step
  split
  · rfl
  · split
    · rfl
    · split
      · rfl
      · generalize (tree.insert location (.file bytes)).get? (parent ++ [name]) = after at hDirectory ⊢
        generalize tree.get? (parent ++ [name]) = before at hDirectory ⊢
        rcases after with _ | (_ | _) <;> rcases before with _ | (_ | _) <;> simp_all

theorem walk_insert_iff {parent last : Location} {names : List String} (hLocation : location ≠ [])
    (hNode : tree.get? location ≠ some .directory) :
    (tree.insert location (.file bytes)).walk parent names = .ok last ↔
      tree.walk parent names = .ok last := by
  have hBind (tree : FileTree) (parent : Location) (name : String) (rest : List String) :
      tree.walk parent (name :: rest) = .ok last ↔
        ∃ next, tree.step parent name = .ok next ∧ tree.walk next rest = .ok last := by
    unfold walk
    rw [List.foldlM_cons]
    cases hStep : tree.step parent name with
    | error fault => simp [bind, Except.bind]
    | ok next => simp [bind, Except.bind]
  induction names generalizing parent with
  | nil => rfl
  | cons name rest ih =>
    rw [hBind, hBind]
    exact exists_congr fun next => and_congr (step_insert_iff hLocation hNode) ih

theorem names_insert_iff {other : Location} (hLocation : location ≠ [])
    (hNode : tree.get? location ≠ some .directory) :
    Names (tree.insert location (.file bytes)) path other ↔ Names tree path other := by
  constructor
  · rintro ⟨hParts, hWalk, hDots, hLength⟩
    exact .intro hParts ((walk_insert_iff hLocation hNode).mp hWalk) hDots hLength
  · rintro ⟨hParts, hWalk, hDots, hLength⟩
    exact .intro hParts ((walk_insert_iff hLocation hNode).mpr hWalk) hDots hLength

/-- Every path has the target that it had before the write. -/
theorem target_insert_iff {other : Location} (hLocation : location ≠ [])
    (hNode : tree.get? location ≠ some .directory) :
    (tree.insert location (.file bytes)).target path = .ok other ↔ tree.target path = .ok other := by
  rw [target_eq_ok_iff, target_eq_ok_iff, names_insert_iff hLocation hNode, ne_eq, ne_eq,
    get?_insert_eq_directory_iff hLocation hNode]

end ShaderHandles.FileTree
