import ShaderHandles.Proofs.Artifacts.Saving

/-!
# Saving reports exactly what it does

Whether the source file needs a write is decided after the header has been written. If the two paths
lead to different files, the header is no part of that: a write changes neither where a path leads to
nor what another file holds. So the report tells how the files were before, nothing else changes, and
saving again finds both files up to date.

* `Report.writes`: the writes that a report tells of.
* `Artifacts.saveOn_settles`: a success in two steps.
* `Artifacts.SavedExactly`: what a report tells, what changes, and what saving again does.
* `Artifacts.saveOn_exact`: every success on two different files is of that kind.
-/

namespace ShaderHandles

/-- The writes that a report of saving some artifacts tells of, in order. -/
def Report.writes (report : Report) (artifacts : Artifacts) : List (String × ByteArray) :=
  (if report.interface = .written then [(report.interfacePath, artifacts.interface.toUTF8)]
    else []) ++
  if report.implementation = .written then
    [(report.implementationPath, artifacts.implementation.toUTF8)]
  else []

/-! ## Other files -/

/-- A path that leads elsewhere reads as before a text was stored. -/
theorem Stored.read_elsewhere {tree after : FileTree} {path other : String} {bytes : ByteArray}
    {location elsewhere : Location} (h : Stored tree path bytes after location)
    (hOther : tree.target other = .ok elsewhere) (hApart : elsewhere ≠ location) :
    after.read? other = tree.read? other := by
  have hFile (found : ByteArray) :
      after.get? elsewhere = some (.file found) ↔ tree.get? elsewhere = some (.file found) := by
    rw [h.others elsewhere hApart]
  ext1 found
  rw [FileTree.read?_eq_some_iff, FileTree.read?_eq_some_iff, hOther, h.targets.mpr hOther]
  constructor
  · rintro ⟨place, hPlace, hFound⟩
    cases hPlace
    exact ⟨elsewhere, rfl, (hFile found).mp hFound⟩
  · rintro ⟨place, hPlace, hFound⟩
    cases hPlace
    exact ⟨elsewhere, rfl, (hFile found).mpr hFound⟩

namespace Artifacts

variable {σ : Type} {disk : Disk σ} {directory : String} {output : Output} {artifacts : Artifacts}
  {state after : σ} {report : Report}

/-! ## Two steps -/

/-- A success settles the header first and the source file then. -/
theorem saveOn_settles
    (hSave : (artifacts.saveOn disk directory output).outcome state = (.ok report, after)) :
    report.interfacePath = Path.join directory output.headerFile ∧
      report.implementationPath = Path.join directory output.sourceFile ∧
      ∃ middle,
        disk.Settles report.interfacePath artifacts.interface state report.interface middle ∧
        disk.Settles report.implementationPath artifacts.implementation middle report.implementation
          after := by
  obtain ⟨interface, middle, hHeader, hRest⟩ := Saving.exists_of_outcome_bind hSave
  obtain ⟨implementation, last, hSource, hReport⟩ := Saving.exists_of_outcome_bind hRest
  obtain ⟨hValue, hAfter⟩ := Prod.mk.inj hReport
  cases hValue
  cases hAfter
  exact ⟨rfl, rfl, middle, saveText_ok_iff.mp hHeader, saveText_ok_iff.mp hSource⟩

/-- Files that are up to date are left alone, whatever a write would do. -/
theorem outcome_saveOn_of_found
    (hHeader : disk.read? state (Path.join directory output.headerFile) =
      some artifacts.interface.toUTF8)
    (hSource : disk.read? state (Path.join directory output.sourceFile) =
      some artifacts.implementation.toUTF8) :
    (artifacts.saveOn disk directory output).outcome state =
      (.ok ⟨Path.join directory output.headerFile, .unchanged,
        Path.join directory output.sourceFile, .unchanged⟩, state) := by
  unfold saveOn
  rw [Saving.outcome_bind_of_ok (outcome_saveText_of_found hHeader),
    Saving.outcome_bind_of_ok (outcome_saveText_of_found hSource)]
  rfl

/-! ## Exactness -/

/-- What is reported, what changes, and what saving again does. -/
structure SavedExactly (disk : Disk σ) (files : σ → FileTree) (directory : String) (output : Output)
    (artifacts : Artifacts) (state : σ) (report : Report) (after : σ) : Prop where
  interfacePath : report.interfacePath = Path.join directory output.headerFile
  implementationPath : report.implementationPath = Path.join directory output.sourceFile
  interface : report.interface = .unchanged ↔
    disk.read? state report.interfacePath = some artifacts.interface.toUTF8
  implementation : report.implementation = .unchanged ↔
    disk.read? state report.implementationPath = some artifacts.implementation.toUTF8
  /-- The disk is left as the reported writes leave it: a file reported as unchanged is not written. -/
  writes : disk.writeAll state (report.writes artifacts) = .ok after
  others : ∀ location, (files state).target report.interfacePath ≠ .ok location →
    (files state).target report.implementationPath ≠ .ok location →
      (files after).get? location = (files state).get? location
  /-- Saving again leaves the whole state as it is, whatever a write would do to it. -/
  again : ∀ write, (artifacts.saveOn { disk with write } directory output).outcome after =
    (.ok { report with interface := .unchanged, implementation := .unchanged }, after)

/-- A success on two different files is reported exactly, changes nothing else, and leaves nothing to
write. -/
theorem saveOn_exact {files : σ → FileTree} (hDisk : disk.Lawful files)
    (hSave : (artifacts.saveOn disk directory output).outcome state = (.ok report, after))
    (hApart : (files state).target (Path.join directory output.headerFile) ≠
      (files state).target (Path.join directory output.sourceFile)) :
    SavedExactly disk files directory output artifacts state report after := by
  obtain ⟨hInterface, hImplementation, middle, hHeader, hSource⟩ := saveOn_settles hSave
  obtain ⟨header, hFirst⟩ := hHeader.stored hDisk
  obtain ⟨source, hSecond⟩ := hSource.stored hDisk
  have hHeaderTarget := hFirst.target
  have hSourceTarget := hFirst.targets.mp hSecond.target
  have hDifferent : header ≠ source := by
    rintro rfl
    exact hApart (by rw [← hInterface, ← hImplementation, hHeaderTarget, hSourceTarget])
  -- The header that was just saved does not change what the path of the source file reads as.
  have hSourceRead : disk.read? middle report.implementationPath =
      disk.read? state report.implementationPath := by
    rw [hDisk.read, hDisk.read]
    exact hFirst.read_elsewhere hSourceTarget hDifferent.symm
  have hHeaderFound : disk.read? after report.interfacePath = some artifacts.interface.toUTF8 := by
    rw [hDisk.read]
    exact (hFirst.read_after hSecond).mpr (Or.inl hDifferent)
  have hSourceFound : disk.read? after report.implementationPath =
      some artifacts.implementation.toUTF8 := by
    rw [hDisk.read]
    exact hSecond.read
  refine ⟨hInterface, hImplementation, hHeader.unchanged_iff, ?_, ?_, ?_, ?_⟩
  · rw [← hSourceRead]
    exact hSource.unchanged_iff
  · rw [Report.writes, Disk.writeAll_append _ hHeader.writeAll, hSource.writeAll]
  · intro location hNotHeader hNotSource
    have hHeaderOther : location ≠ header := fun hEq => hNotHeader (hEq ▸ hHeaderTarget)
    have hSourceOther : location ≠ source := fun hEq => hNotSource (hEq ▸ hSourceTarget)
    rw [hSecond.others location hSourceOther, hFirst.others location hHeaderOther]
  · intro write
    rw [hInterface] at hHeaderFound
    rw [hImplementation] at hSourceFound
    rw [hInterface, hImplementation]
    exact @outcome_saveOn_of_found σ { disk with write } _ _ _ _ hHeaderFound hSourceFound

/-- In a directory whose header is up to date, saving writes the source file only. -/
theorem saveOn_exact_header_found :
    FileTree.disk.Lawful id ∧
      ∃ tree report after, (save "/" {} ⟨"header\n", "source\n"⟩).outcome tree = (.ok report, after) ∧
        FileTree.target tree "/shaders.gen.h" ≠ FileTree.target tree "/shaders.gen.c" ∧
        report.interface = .unchanged ∧ report.implementation = .written ∧
        SavedExactly FileTree.disk id "/" {} ⟨"header\n", "source\n"⟩ tree report after := by
  let tree : FileTree := ⟨[(["shaders.gen.h"], .file "header\n".toUTF8)]⟩
  have hSave : (save "/" {} ⟨"header\n", "source\n"⟩).outcome tree =
      (.ok ⟨"/shaders.gen.h", .unchanged, "/shaders.gen.c", .written⟩, _) := rfl
  have hHeader : tree.target "/shaders.gen.h" = .ok ["shaders.gen.h"] := rfl
  have hSource : tree.target "/shaders.gen.c" = .ok ["shaders.gen.c"] := rfl
  have hApart : tree.target "/shaders.gen.h" ≠ tree.target "/shaders.gen.c" := by
    rw [hHeader, hSource]
    exact fun hEq => absurd (Except.ok.inj hEq) (by decide)
  exact ⟨FileTree.disk_lawful, tree, _, _, hSave, hApart, rfl, rfl,
    saveOn_exact FileTree.disk_lawful hSave hApart⟩

end Artifacts

end ShaderHandles
