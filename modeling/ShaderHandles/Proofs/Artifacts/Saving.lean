import ShaderHandles.Artifacts.Save
import ShaderHandles.Proofs.FileTree.Disk
import ShaderHandles.Proofs.FileTree.Target

/-!
# What saving leaves behind

Saving a text takes one of three courses: the file is up to date and left alone, it is written, or
neither is possible. A saved text stands in the file that its path leads to, and no other file changes.
The header is saved before the source file, so the source file is always found as it was saved, and the
header is found as it was saved unless both paths lead to one file.

* `Disk.Settles`, `Disk.Stops`: the courses of one step, with and without success.
* `Artifacts.saveText_ok_iff`, `Artifacts.saveText_error_iff`: there are no others.
* `Stored`: a text stands at a location, and everything else is as before.
* `Disk.Settles.stored`: what a successful step of saving does.
* `Artifacts.save_readBack`: when the two files read as the artifacts.
-/

namespace ShaderHandles

/-! ## Outcomes -/

namespace Saving

variable {σ α β : Type} {saving : Saving σ α} {next : α → Saving σ β} {state after : σ}

/-- The value or the failure, and the state that is left. -/
def outcome (saving : Saving σ α) (state : σ) : Except Failure α × σ :=
  (saving.run.run state).value

theorem outcome_bind (saving : Saving σ α) (next : α → Saving σ β) (state : σ) :
    (saving >>= next).outcome state =
      match saving.outcome state with
      | (.ok value, after) => (next value).outcome after
      | (.error failure, after) => (.error failure, after) := by
  unfold outcome
  simp only [ExceptT.run_bind, StateT.run_bind, Logged.bind_value]
  rcases (saving.run.run state).value with ⟨_ | value, after⟩ <;> rfl

/-- A bind that succeeds succeeds in both steps. -/
theorem exists_of_outcome_bind {result : β} (h : (saving >>= next).outcome state = (.ok result, after)) :
    ∃ value middle, saving.outcome state = (.ok value, middle) ∧
      (next value).outcome middle = (.ok result, after) := by
  rw [outcome_bind] at h
  rcases hFirst : saving.outcome state with ⟨failure | value, middle⟩
  · rw [hFirst] at h
    exact nomatch h
  · rw [hFirst] at h
    exact ⟨value, middle, rfl, h⟩

/-- A bind that fails fails in its first step or after it. -/
theorem cases_of_outcome_bind {failure : Failure}
    (h : (saving >>= next).outcome state = (.error failure, after)) :
    saving.outcome state = (.error failure, after) ∨
      ∃ value middle, saving.outcome state = (.ok value, middle) ∧
        (next value).outcome middle = (.error failure, after) := by
  rw [outcome_bind] at h
  rcases hFirst : saving.outcome state with ⟨found | value, middle⟩
  · rw [hFirst] at h
    cases h
    exact Or.inl rfl
  · rw [hFirst] at h
    exact Or.inr ⟨value, middle, rfl, h⟩

/-- After a first step that succeeds, a bind goes on with its value. -/
theorem outcome_bind_of_ok {value : α} (hFirst : saving.outcome state = (.ok value, after)) :
    (saving >>= next).outcome state = (next value).outcome after := by
  rw [outcome_bind, hFirst]

/-- A first step that fails ends a bind. -/
theorem outcome_bind_of_error {failure : Failure}
    (hFirst : saving.outcome state = (.error failure, after)) :
    (saving >>= next).outcome state = (.error failure, after) := by
  rw [outcome_bind, hFirst]

end Saving

/-! ## One step -/

namespace Disk

variable {σ : Type} {disk : Disk σ} {state after : σ} {path text : String} {status : Status}

/-- The ways in which a path comes to hold a text, with what is reported and the state that is left:
it held the text already, or it is written. -/
inductive Settles (disk : Disk σ) (path text : String) (state : σ) : Status → σ → Prop where
  | unchanged (hFound : disk.read? state path = some text.toUTF8) :
    Settles disk path text state .unchanged state
  | written {after : σ} (hStale : disk.read? state path ≠ some text.toUTF8)
    (hWrite : disk.write state path text.toUTF8 = .ok after) :
    Settles disk path text state .written after

/-- A path that does not hold a text and cannot be written. -/
structure Stops (disk : Disk σ) (path text : String) (state : σ) (fault : FileTree.Fault) : Prop where
  stale : disk.read? state path ≠ some text.toUTF8
  refused : disk.write state path text.toUTF8 = .error fault

/-- A path is reported unchanged exactly if it held the text before. -/
theorem Settles.unchanged_iff (h : disk.Settles path text state status after) :
    status = .unchanged ↔ disk.read? state path = some text.toUTF8 := by
  cases h with
  | unchanged hFound => exact iff_of_true rfl hFound
  | written hStale => exact iff_of_false (fun hEq => nomatch hEq) hStale

/-- The state that is left is that after the write, if there was one. -/
theorem Settles.writeAll (h : disk.Settles path text state status after) :
    disk.writeAll state (if status = .written then [(path, text.toUTF8)] else []) = .ok after := by
  cases h with
  | unchanged hFound => rfl
  | written hStale hWrite => exact writeAll_one hWrite

end Disk

namespace Artifacts

variable {σ : Type} {disk : Disk σ} {state after : σ} {path text : String} {status : Status}

theorem outcome_saveText (disk : Disk σ) (path text : String) (state : σ) :
    (saveText disk path text).outcome state =
      if disk.holds state path text.toUTF8 then (.ok .unchanged, state)
      else
        match disk.write state path text.toUTF8 with
        | .error fault => (.error (.unwritable path fault), state)
        | .ok after => (.ok .written, after) := by
  have hSave : (saveText disk path text).outcome state =
      ((if disk.holds state path text.toUTF8 then do
          ExceptT.lift (StateT.lift (Logged.send (unchangedEntry path)))
          return .unchanged
        else
          match disk.write state path text.toUTF8 with
          | .error fault => throw (.unwritable path fault)
          | .ok state => do
            set state
            ExceptT.lift (StateT.lift (Logged.send (writtenEntry path text)))
            return .written : Saving σ Status)).outcome state := rfl
  rw [hSave]
  split
  · rfl
  · cases disk.write state path text.toUTF8 with
    | error fault => rfl
    | ok after => rfl

theorem outcome_saveText_of_found (hFound : disk.read? state path = some text.toUTF8) :
    (saveText disk path text).outcome state = (.ok .unchanged, state) := by
  rw [outcome_saveText, if_pos (Disk.holds_iff.mpr hFound)]

theorem outcome_saveText_of_stale (hStale : disk.read? state path ≠ some text.toUTF8) :
    (saveText disk path text).outcome state =
      match disk.write state path text.toUTF8 with
      | .error fault => (.error (.unwritable path fault), state)
      | .ok after => (.ok .written, after) := by
  rw [outcome_saveText, if_neg fun hHolds => hStale (Disk.holds_iff.mp hHolds)]

theorem saveText_ok_iff :
    (saveText disk path text).outcome state = (.ok status, after) ↔
      disk.Settles path text state status after := by
  by_cases hFound : disk.read? state path = some text.toUTF8
  · rw [outcome_saveText_of_found hFound]
    constructor
    · intro hEq
      cases hEq
      exact .unchanged hFound
    · intro h
      cases h with
      | unchanged => rfl
      | written hStale => exact absurd hFound hStale
  · rw [outcome_saveText_of_stale hFound]
    constructor
    · intro hEq
      cases hWrite : disk.write state path text.toUTF8 with
      | error fault =>
        rw [hWrite] at hEq
        exact nomatch hEq
      | ok written =>
        rw [hWrite] at hEq
        cases hEq
        exact .written hFound hWrite
    · intro h
      cases h with
      | unchanged hHeld => exact absurd hHeld hFound
      | written hStale hWrite => rw [hWrite]

theorem saveText_error_iff {failure : Failure} :
    (saveText disk path text).outcome state = (.error failure, after) ↔
      after = state ∧ ∃ fault, failure = .unwritable path fault ∧ disk.Stops path text state fault := by
  by_cases hFound : disk.read? state path = some text.toUTF8
  · rw [outcome_saveText_of_found hFound]
    constructor
    · exact fun hEq => nomatch hEq
    · rintro ⟨-, fault, -, hStops⟩
      exact absurd hFound hStops.stale
  · rw [outcome_saveText_of_stale hFound]
    constructor
    · intro hEq
      cases hWrite : disk.write state path text.toUTF8 with
      | error fault =>
        rw [hWrite] at hEq
        cases hEq
        exact ⟨rfl, fault, rfl, hFound, hWrite⟩
      | ok written =>
        rw [hWrite] at hEq
        exact nomatch hEq
    · rintro ⟨rfl, fault, rfl, hStops⟩
      rw [hStops.refused]

end Artifacts

/-! ## One file -/

/-- After a step the bytes stand at the location that the path leads to, and nothing else changed. -/
structure Stored (tree : FileTree) (path : String) (bytes : ByteArray) (after : FileTree)
    (location : Location) : Prop where
  target : tree.target path = .ok location
  file : after.get? location = some (.file bytes)
  others : ∀ other, other ≠ location → after.get? other = tree.get? other
  targets : ∀ {path : String} {other : Location},
    after.target path = .ok other ↔ tree.target path = .ok other

/-- A step that succeeds leaves the text where its path leads to, whether it wrote or not. -/
theorem Disk.Settles.stored {σ : Type} {disk : Disk σ} {files : σ → FileTree} {state after : σ}
    {path text : String} {status : Status} (h : disk.Settles path text state status after)
    (hDisk : disk.Lawful files) :
    ∃ location, Stored (files state) path text.toUTF8 (files after) location := by
  cases h with
  | unchanged hFound =>
    rw [hDisk.read] at hFound
    obtain ⟨location, hTarget, hFile⟩ := FileTree.read?_eq_some_iff.mp hFound
    exact ⟨location, hTarget, hFile, fun _ _ => rfl, Iff.rfl⟩
  | written hStale hWrite =>
    have hTree := hDisk.write hWrite
    cases hTarget : (files state).target path with
    | error fault =>
      rw [FileTree.write, hTarget] at hTree
      exact nomatch hTree
    | ok location =>
      rw [FileTree.write, hTarget] at hTree
      have hAfter : (files state).insert location (.file text.toUTF8) = files after :=
        Except.ok.inj hTree
      obtain ⟨hNames, hNode⟩ := FileTree.target_eq_ok_iff.mp hTarget
      rw [← hAfter]
      exact ⟨location, hTarget, FileTree.get?_insert_self _ _ hNames.ne_nil,
        fun other hOther => FileTree.get?_insert_of_ne _ _ hOther,
        FileTree.target_insert_iff hNames.ne_nil hNode⟩

theorem Artifacts.saveText_stored {path text : String} {tree after : FileTree} {status : Status}
    (hSave : (saveText FileTree.disk path text).outcome tree = (.ok status, after)) :
    ∃ location, Stored tree path text.toUTF8 after location :=
  (saveText_ok_iff.mp hSave).stored FileTree.disk_lawful

/-- A stored text is what its path reads as. -/
theorem Stored.read {tree after : FileTree} {path : String} {bytes : ByteArray} {location : Location}
    (h : Stored tree path bytes after location) : after.read? path = some bytes :=
  FileTree.read?_eq_some_iff.mpr ⟨location, h.targets.mpr h.target, h.file⟩

/-- What a path reads as after a second text is stored. -/
theorem Stored.read_after {tree middle after : FileTree} {first second : String}
    {firstBytes secondBytes : ByteArray} {firstLocation secondLocation : Location}
    (hFirst : Stored tree first firstBytes middle firstLocation)
    (hSecond : Stored middle second secondBytes after secondLocation) :
    after.read? first = some firstBytes ↔
      firstLocation ≠ secondLocation ∨ firstBytes = secondBytes := by
  have hTarget : after.target first = .ok firstLocation :=
    hSecond.targets.mpr (hFirst.targets.mpr hFirst.target)
  have hRead : after.read? first = some firstBytes ↔
      after.get? firstLocation = some (.file firstBytes) := by
    rw [FileTree.read?_eq_some_iff]
    constructor
    · rintro ⟨location, hLocation, hFile⟩
      rw [hTarget] at hLocation
      cases hLocation
      exact hFile
    · exact fun hFile => ⟨firstLocation, hTarget, hFile⟩
  rw [hRead]
  by_cases hSame : firstLocation = secondLocation
  · rw [hSame, hSecond.file]
    simp [eq_comm]
  · rw [hSecond.others firstLocation hSame, hFirst.file]
    simp [hSame]

/-! ## Both files -/

namespace Artifacts

/-- Whenever saving reports success, the source file reads as it was saved, and the header reads as it
was saved exactly if the two paths lead to different files or the two texts are the same. -/
theorem save_readBack {directory : String} {output : Output} {artifacts : Artifacts}
    {tree after : FileTree} {report : Report}
    (hSave : (artifacts.save directory output).outcome tree = (.ok report, after)) :
    ∃ header source, tree.target report.interfacePath = .ok header ∧
      tree.target report.implementationPath = .ok source ∧
      after.read? report.implementationPath = some artifacts.implementation.toUTF8 ∧
      (after.read? report.interfacePath = some artifacts.interface.toUTF8 ↔
        header ≠ source ∨ artifacts.interface = artifacts.implementation) := by
  obtain ⟨interface, middle, hHeader, hRest⟩ := Saving.exists_of_outcome_bind hSave
  obtain ⟨implementation, last, hSource, hReport⟩ := Saving.exists_of_outcome_bind hRest
  obtain ⟨hValue, hAfter⟩ := Prod.mk.inj hReport
  cases hValue
  cases hAfter
  obtain ⟨header, hFirst⟩ := saveText_stored hHeader
  obtain ⟨source, hSecond⟩ := saveText_stored hSource
  refine ⟨header, source, hFirst.target, hFirst.targets.mp hSecond.target, hSecond.read, ?_⟩
  rw [hFirst.read_after hSecond, String.toUTF8, String.toUTF8, String.toByteArray_inj]

/-- Saving under the default names succeeds in an empty directory. -/
theorem save_readBack_default_names :
    ∃ report after, (save "/" {} ⟨"header\n", "source\n"⟩).outcome {} = (.ok report, after) ∧
      ∃ header source, FileTree.target {} report.interfacePath = .ok header ∧
        FileTree.target {} report.implementationPath = .ok source ∧
        after.read? report.implementationPath = some "source\n".toUTF8 ∧
        (after.read? report.interfacePath = some "header\n".toUTF8 ↔
          header ≠ source ∨ "header\n" = "source\n") := by
  have hSave : (save "/" {} ⟨"header\n", "source\n"⟩).outcome {} =
      (.ok ⟨"/shaders.gen.h", .written, "/shaders.gen.c", .written⟩, _) := rfl
  exact ⟨_, _, hSave, save_readBack hSave⟩

/-- Two spellings of one name: saving reports success, and the header reads as the source file. -/
theorem not_save_readsBoth :
    ¬∀ (directory : String) (output : Output) (artifacts : Artifacts) (tree after : FileTree)
        (report : Report), (artifacts.save directory output).outcome tree = (.ok report, after) →
      after.read? report.interfacePath = some artifacts.interface.toUTF8 ∧
        after.read? report.implementationPath = some artifacts.implementation.toUTF8 := by
  intro hBoth
  have hRead : some "source\n".toUTF8 = some "header\n".toUTF8 :=
    (hBoth "/" { headerFile := "gl.h", sourceFile := "./gl.h" } ⟨"header\n", "source\n"⟩ {} _ _ rfl).1
  exact absurd hRead (by decide)

end Artifacts

end ShaderHandles
