import ShaderHandles.Proofs.Artifacts.Saving

/-!
# What saving leaves behind when it fails

Saving fails at the first of its two files that neither holds its artifact nor can be written. A failure
at the header comes before anything else has happened; a failure at the source file leaves the header
saved, and nothing else has changed. A file that is up to date never makes saving fail.

* `Artifacts.StopsAtHeader`, `Artifacts.StopsAtSource`: the two kinds of failures.
* `Artifacts.saveOn_failure`: every failure is of one of these kinds.
-/

namespace ShaderHandles.Artifacts

variable {σ : Type} {disk : Disk σ} {files : σ → FileTree} {directory : String} {output : Output}
  {artifacts : Artifacts} {state after : σ} {failure : Failure}

/-- A failure at the header: nothing has changed, and the source file has played no part. -/
structure StopsAtHeader (disk : Disk σ) (directory : String) (output : Output) (artifacts : Artifacts)
    (state : σ) (failure : Failure) (after : σ) : Prop where
  cause : ∃ fault, failure = .unwritable (Path.join directory output.headerFile) fault ∧
    disk.Stops (Path.join directory output.headerFile) artifacts.interface state fault
  kept : after = state
  /-- Any other source file leads to the same failure. -/
  untouched : ∀ sourceFile implementation,
    (saveOn disk directory { output with sourceFile } { artifacts with implementation }).outcome state =
      (.error failure, state)

/-- A failure at the source file: the header is saved, and nothing else has changed. -/
structure StopsAtSource (disk : Disk σ) (files : σ → FileTree) (directory : String) (output : Output)
    (artifacts : Artifacts) (state : σ) (failure : Failure) (after : σ) : Prop where
  header : ∃ status,
    disk.Settles (Path.join directory output.headerFile) artifacts.interface state status after
  stored : ∃ location, Stored (files state) (Path.join directory output.headerFile)
    artifacts.interface.toUTF8 (files after) location
  cause : ∃ fault, failure = .unwritable (Path.join directory output.sourceFile) fault ∧
    disk.Stops (Path.join directory output.sourceFile) artifacts.implementation after fault

/-- A failure at the header ends saving, whatever the source file is. -/
theorem outcome_saveOn_of_header_error
    (hHeader : (saveText disk (Path.join directory output.headerFile) artifacts.interface).outcome
      state = (.error failure, after)) :
    (artifacts.saveOn disk directory output).outcome state = (.error failure, after) := by
  unfold saveOn
  exact Saving.outcome_bind_of_error hHeader

/-- Saving fails at the header or, with the header saved, at the source file. A path that holds its text
already makes no step fail, whatever a write to it would do. -/
theorem saveOn_failure (hDisk : disk.Lawful files) (directory : String) (output : Output)
    (artifacts : Artifacts) (state : σ) :
    (∀ failure after, (artifacts.saveOn disk directory output).outcome state = (.error failure, after) →
        StopsAtHeader disk directory output artifacts state failure after ∨
          StopsAtSource disk files directory output artifacts state failure after) ∧
      ∀ path text, disk.read? state path = some text.toUTF8 →
        ∀ write, (saveText { disk with write } path text).outcome state = (.ok .unchanged, state) := by
  constructor
  · intro failure after hSave
    rcases Saving.cases_of_outcome_bind hSave with hHeader | ⟨status, middle, hHeader, hRest⟩
    case inl =>
      left
      obtain ⟨hKept, hCause⟩ := saveText_error_iff.mp hHeader
      refine ⟨hCause, hKept, fun sourceFile implementation => ?_⟩
      subst hKept
      exact outcome_saveOn_of_header_error hHeader
    case inr =>
      right
      rcases Saving.cases_of_outcome_bind hRest with hSource | ⟨found, last, -, hReport⟩
      case inl =>
        obtain ⟨rfl, hCause⟩ := saveText_error_iff.mp hSource
        have hSettles := saveText_ok_iff.mp hHeader
        exact ⟨⟨status, hSettles⟩, hSettles.stored hDisk, hCause⟩
      case inr => exact nomatch hReport
  · intro path text hFound write
    exact @outcome_saveText_of_found σ { disk with write } _ _ _ hFound

/-- A source file in a directory that is missing: the header is saved before saving fails. -/
theorem saveOn_failure_missing_directory :
    FileTree.disk.Lawful id ∧
      ∃ after, (save "/" { sourceFile := "missing/gl.c" } ⟨"header\n", "source\n"⟩).outcome {} =
          (.error (.unwritable "/missing/gl.c" .notFound), after) ∧
        StopsAtSource FileTree.disk id "/" { sourceFile := "missing/gl.c" } ⟨"header\n", "source\n"⟩ {}
          (.unwritable "/missing/gl.c" .notFound) after := by
  have hSave : (save "/" { sourceFile := "missing/gl.c" } ⟨"header\n", "source\n"⟩).outcome {} =
      (.error (.unwritable "/missing/gl.c" .notFound), _) := rfl
  refine ⟨FileTree.disk_lawful, _, hSave, ?_⟩
  rcases (saveOn_failure FileTree.disk_lawful _ _ _ _).1 _ _ hSave with hHeader | hSource
  · obtain ⟨fault, hFailure, -⟩ := hHeader.cause
    have hPath : "/missing/gl.c" = Path.join "/" "shaders.gen.h" := (Failure.unwritable.inj hFailure).1
    exact absurd hPath (by decide)
  · exact hSource

end ShaderHandles.Artifacts
