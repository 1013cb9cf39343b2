import ShaderHandles.FileTree.Path

/-!
# File trees

A file tree maps locations to files and directories, as a program sees them that has the file system
for itself. A path is looked up from the root name by name: every name but the last must lead to a
directory, a dot stays where it is, and two dots lead to the directory above.

* `FileTree.find`: what a path leads to.
* `FileTree.target`: the location that a write to a path goes to.
* `FileTree.write`: the tree after a write, or the fault that leaves it as it is.
* `FileTree.get?_insert_self`, `FileTree.get?_insert_of_ne`: a write changes one location.
-/

namespace ShaderHandles

/-- What is at a location. -/
inductive Node where
  | file (bytes : ByteArray)
  | directory

/-- The names that lead from the root to a place. -/
abbrev Location := List String

/-- The files and directories by location. The root is a directory and is not listed. -/
structure FileTree where
  nodes : List (Location × Node) := []

namespace FileTree

/-- Why a path cannot be used. -/
inductive Fault where
  | nulInName
  | notFound
  | notADirectory
  | isADirectory
  | nameTooLong
  deriving DecidableEq

def Fault.message : Fault → String
  | nulInName => "file name contained an unexpected NUL byte"
  | notFound => "No such file or directory (os error 2)"
  | notADirectory => "Not a directory (os error 20)"
  | isADirectory => "Is a directory (os error 21)"
  | nameTooLong => "File name too long (os error 36)"

/-- The greatest number of bytes of a name. -/
def nameLimit : Nat := 255

/-- The number of bytes that a path stays below. -/
def pathLimit : Nat := 4096

/-! ## Locations -/

def get? (tree : FileTree) (location : Location) : Option Node :=
  if location = [] then some .directory else tree.nodes.lookup location

/-- The tree with a node at a location, in place of the one that was there. -/
def insert (tree : FileTree) (location : Location) (node : Node) : FileTree :=
  ⟨(location, node) :: tree.nodes.filter (·.1 != location)⟩

def erase (tree : FileTree) (location : Location) : FileTree :=
  ⟨tree.nodes.filter (·.1 != location)⟩

/-! ## Walking -/

/-- Whether a name stays in a directory or leads up, and so names no entry of its own. -/
def isDots (name : String) : Bool := name = "" || name = "." || name = ".."

/-- One step of a walk through directories. -/
def step (tree : FileTree) (location : Location) (name : String) : Except Fault Location :=
  if name = "" ∨ name = "." then .ok location
  else if name = ".." then .ok location.dropLast
  else if nameLimit < name.utf8ByteSize then .error .nameTooLong
  else
    match tree.get? (location ++ [name]) with
    | some .directory => .ok (location ++ [name])
    | some (.file _) => .error .notADirectory
    | none => .error .notFound

/-- A walk through directories. -/
def walk (tree : FileTree) (location : Location) (names : List String) : Except Fault Location :=
  names.foldlM tree.step location

/-- The names of a path that can be looked up at all. -/
def names (path : String) : Except Fault (List String) :=
  if path.toList.contains '\x00' then .error .nulInName
  else if path.isEmpty then .error .notFound
  else if pathLimit ≤ path.utf8ByteSize then .error .nameTooLong
  else .ok (Path.names path)

/-- What a path leads to. -/
def find (tree : FileTree) (path : String) : Except Fault Node := do
  let names ← names path
  let last := names.getLastD ""
  let parent ← tree.walk [] names.dropLast
  if isDots last then
    return .directory
  else if nameLimit < last.utf8ByteSize then
    throw .nameTooLong
  else
    match tree.get? (parent ++ [last]) with
    | some node => return node
    | none => throw .notFound

/-- The bytes of the file that a path leads to. -/
def read? (tree : FileTree) (path : String) : Option ByteArray :=
  match tree.find path with
  | .ok (.file bytes) => some bytes
  | _ => none

/-- The location that a write to a path goes to. A path that ends with a slash, or whose last name
is made of dots, names a directory. -/
def target (tree : FileTree) (path : String) : Except Fault Location := do
  let names ← names path
  let core := (names.reverse.dropWhile (· == "")).reverse
  let last := core.getLastD ""
  let parent ← tree.walk [] core.dropLast
  if names.getLast? = some "" || isDots last then
    throw .isADirectory
  else if nameLimit < last.utf8ByteSize then
    throw .nameTooLong
  else
    match tree.get? (parent ++ [last]) with
    | some .directory => throw .isADirectory
    | _ => return parent ++ [last]

/-! ## Changing -/

def write (tree : FileTree) (path : String) (bytes : ByteArray) : Except Fault FileTree := do
  let location ← tree.target path
  return tree.insert location (.file bytes)

def remove (tree : FileTree) (path : String) : Except Fault FileTree := do
  match ← tree.find path with
  | .file _ => return tree.erase (← tree.target path)
  | .directory => throw .isADirectory

/-- One step of a walk that makes the directories it misses. -/
def stepMaking (state : FileTree × Location) (name : String) :
    Except Fault (FileTree × Location) :=
  match state.1.step state.2 name with
  | .ok location => .ok (state.1, location)
  | .error .notFound =>
    .ok (state.1.insert (state.2 ++ [name]) .directory, state.2 ++ [name])
  | .error fault => .error fault

/-- The tree after the directory of a path, and those above it, are made. -/
def makeDirectories (tree : FileTree) (path : String) : Except Fault FileTree := do
  let names ← names path
  let (tree, _) ← names.foldlM stepMaking (tree, [])
  return tree

/-! ## Operations through look-ups -/

theorem get?_insert_self (tree : FileTree) {location : Location} (node : Node)
    (hLocation : location ≠ []) : (tree.insert location node).get? location = some node := by
  simp [get?, insert, hLocation]

theorem lookup_filter_ne (nodes : List (Location × Node)) {location other : Location}
    (hne : other ≠ location) :
    (nodes.filter (·.1 != location)).lookup other = nodes.lookup other := by
  induction nodes with
  | nil => rfl
  | cons entry rest ih =>
    obtain ⟨key, node⟩ := entry
    by_cases hKey : key = location
    · subst hKey
      simp [List.lookup_cons, beq_false_of_ne hne, ih]
    · simp [hKey, List.lookup_cons, ih]

theorem get?_insert_of_ne (tree : FileTree) {location other : Location} (node : Node)
    (hne : other ≠ location) : (tree.insert location node).get? other = tree.get? other := by
  simp only [get?, insert, List.lookup_cons]
  split
  · rfl
  · simp [beq_false_of_ne hne, lookup_filter_ne tree.nodes hne]

end FileTree

end ShaderHandles
