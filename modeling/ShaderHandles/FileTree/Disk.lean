import ShaderHandles.FileTree.Basic

/-!
# Disks

A disk is what the program uses files through: it reads and writes them by path. Its state may hold
more than the files, such as the time at which each was written, and a write may fail for reasons of
its own, such as a file that is protected. A write that fails leaves no new state.

* `Disk`: reading and writing.
* `Disk.holds_iff`: when a file needs no write.
* `FileTree.disk`: the disk whose state is its tree of files.
-/

namespace ShaderHandles

/-- Reading and writing by path, with states of type `σ`. -/
structure Disk (σ : Type) where
  /-- The bytes of the file that a path leads to. -/
  read? : σ → String → Option ByteArray
  write : σ → String → ByteArray → Except FileTree.Fault σ

namespace Disk

variable {σ : Type}

/-- Whether a path leads to a file of exactly these bytes. -/
def holds (disk : Disk σ) (state : σ) (path : String) (bytes : ByteArray) : Bool :=
  match disk.read? state path with
  | some found => found.data == bytes.data
  | none => false

theorem holds_iff {disk : Disk σ} {state : σ} {path : String} {bytes : ByteArray} :
    disk.holds state path bytes = true ↔ disk.read? state path = some bytes := by
  unfold holds
  cases disk.read? state path with
  | none => simp
  | some found => simp [ByteArray.ext_iff]

end Disk

/-- The disk whose state is its tree of files. -/
def FileTree.disk : Disk FileTree where
  read? := read?
  write := write

end ShaderHandles
