import ShaderHandles.Artifacts.Generate
import ShaderHandles.FileTree.Disk

/-!
# Saving the artifacts

Both artifacts are written into a directory, the header first. A file that already holds its
artifact is left alone.

* `Artifacts.saveOn`: the report of what happened to the two files of a disk. A failure for the second
  file keeps what happened to the first.
* `Artifacts.save`: the same in a tree of files.
-/

namespace ShaderHandles

/-- What happened to a file. -/
inductive Status where
  | written
  | unchanged
  deriving DecidableEq

/-- The word for what happened to a file. -/
def Status.word : Status → String
  | written => "Written"
  | unchanged => "Unchanged"

/-- The paths of the two files, and what happened to them. -/
structure Report where
  interfacePath : String
  interface : Status
  implementationPath : String
  implementation : Status
  deriving DecidableEq

/-- A computation that also changes the state of a disk. The changes stay when it fails. -/
abbrev Saving (σ : Type) := ExceptT Failure (StateT σ Logged)

namespace Artifacts

/-- The part of the program that the entries about files come from. -/
def saveOrigin : String := "shader_bindgen::output"

/-- The entry for a file that already holds its artifact. -/
def unchangedEntry (path : String) : Entry where
  level := .debug
  origin := saveOrigin
  message := path ++ " is up to date"

def writtenEntry (path text : String) : Entry where
  level := .info
  origin := saveOrigin
  message := "Wrote " ++ path ++ " (" ++ toString text.utf8ByteSize ++ " bytes)"

variable {σ : Type}

/-- Makes a file hold a text. -/
def saveText (disk : Disk σ) (path text : String) : Saving σ Status := do
  let state ← get
  if disk.holds state path text.toUTF8 then
    ExceptT.lift (StateT.lift (Logged.send (unchangedEntry path)))
    return .unchanged
  else
    match disk.write state path text.toUTF8 with
    | .error fault => throw (.unwritable path fault)
    | .ok state =>
      set state
      ExceptT.lift (StateT.lift (Logged.send (writtenEntry path text)))
      return .written

/-- Saves both artifacts under the file names of the settings. -/
def saveOn (disk : Disk σ) (directory : String) (output : Output) (artifacts : Artifacts) :
    Saving σ Report := do
  let interfacePath := Path.join directory output.headerFile
  let implementationPath := Path.join directory output.sourceFile
  let interface ← saveText disk interfacePath artifacts.interface
  let implementation ← saveText disk implementationPath artifacts.implementation
  return { interfacePath, interface, implementationPath, implementation }

/-- Saves both artifacts in a tree of files. -/
def save (directory : String) (output : Output) (artifacts : Artifacts) : Saving FileTree Report :=
  artifacts.saveOn FileTree.disk directory output

end Artifacts

end ShaderHandles
