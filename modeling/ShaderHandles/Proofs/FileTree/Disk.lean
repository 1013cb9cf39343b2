import ShaderHandles.FileTree.Disk

/-!
# Disks that keep files

What a program relies on in a disk is that its files are a tree: reading a path gives what the tree
has there, and a write that succeeds is a write to the tree. Which writes fail, and what the state of
the disk holds besides its files, is left open.

* `Disk.Lawful`: the files of a disk are a tree.
* `FileTree.disk_lawful`: a tree of files is a disk with that tree.
* `Disk.writeAll`: some writes, one after the other.
-/

namespace ShaderHandles

namespace Disk

variable {σ : Type}

/-- The files of a disk, as `files` finds them in its state, are read and written as a tree. -/
structure Lawful (disk : Disk σ) (files : σ → FileTree) : Prop where
  read : ∀ state path, disk.read? state path = (files state).read? path
  write : ∀ {state after path bytes}, disk.write state path bytes = .ok after →
    (files state).write path bytes = .ok (files after)

/-- The state after some writes in order, if none of them fails. -/
def writeAll (disk : Disk σ) (state : σ) (writes : List (String × ByteArray)) :
    Except FileTree.Fault σ :=
  writes.foldlM (fun state file => disk.write state file.1 file.2) state

/-- Writes in two parts, of which the first succeeds. -/
theorem writeAll_append {disk : Disk σ} {state middle : σ} {first : List (String × ByteArray)}
    (second : List (String × ByteArray)) (hFirst : disk.writeAll state first = .ok middle) :
    disk.writeAll state (first ++ second) = disk.writeAll middle second := by
  unfold writeAll at hFirst ⊢
  rw [List.foldlM_append, hFirst]
  rfl

theorem writeAll_one {disk : Disk σ} {state after : σ} {path : String} {bytes : ByteArray}
    (hWrite : disk.write state path bytes = .ok after) :
    disk.writeAll state [(path, bytes)] = .ok after := by
  unfold writeAll
  rw [List.foldlM_cons, hWrite]
  rfl

end Disk

/-- A tree of files is a disk with that tree. -/
theorem FileTree.disk_lawful : FileTree.disk.Lawful id where
  read _ _ := rfl
  write hWrite := hWrite

end ShaderHandles
