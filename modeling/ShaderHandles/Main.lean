import ShaderHandles.CommandLine

/-!
# Running the command

The command is decided on a file tree that holds what the disk has at its two paths, and the files
that it changes there are written back to the disk.
-/

namespace ShaderHandles.CommandLine

/-- The paths that the command may write to. -/
def paths : List String := [settings.output.headerFile, settings.output.sourceFile]

/-- What the disk has at a path: a file, nothing, or something that cannot be read as a file. -/
def nodeOnDisk (path : String) : IO (Option Node) := do
  try
    return some (.file (← IO.FS.readBinFile path))
  catch
    | .noFileOrDirectory .. => return none
    | _ => return some .directory

/-- The tree of what the disk has at the command's paths. -/
def treeOnDisk : IO FileTree := do
  let mut tree : FileTree := {}
  for path in paths do
    if let some node ← nodeOnDisk path then
      tree := tree.insert [path] node
  return tree

/-- Runs the command on the disk and gives its exit code. -/
def runOnDisk : IO UInt32 := do
  let before ← treeOnDisk
  let outcome := outcome (← IO.getEnv "RUST_LOG") before
  for path in paths do
    if let some bytes := outcome.tree.read? path then
      unless FileTree.disk.holds before path bytes do
        IO.FS.writeBinFile path bytes
  for line in outcome.errorLines do
    IO.eprintln line
  return outcome.exitCode.toUInt32

end ShaderHandles.CommandLine

def main : IO UInt32 := ShaderHandles.CommandLine.runOnDisk
