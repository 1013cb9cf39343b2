import ShaderHandles.Artifacts.Save
import ShaderHandles.Log.Filter
import ShaderHandles.Registry.Production

/-!
# The command

The command checks the production registry, generates its artifacts and saves them in the current
directory. It has no arguments.

* `CommandLine.run`: what the command does to a file tree, what it logs and whether it fails.
* `CommandLine.outcome`: the exit code and the lines on the error stream.
-/

namespace ShaderHandles.CommandLine

/-- The settings of the command: the production ones, with the check. -/
def settings : Settings := { validate := true }

def directory : String := "."

/-- The part of the program that the last entry comes from. -/
def origin : String := "shader_bindgen"

/-- The entry about both files. -/
def reportEntry (report : Report) : Entry where
  level := .info
  origin := origin
  message := report.interfacePath ++ ": " ++ report.interface.word ++ ", " ++
    report.implementationPath ++ ": " ++ report.implementation.word

/-- The failure of the command, as a sentence and what is behind it. -/
structure Complaint where
  message : String
  causes : List String

def generationComplaint (failure : Failure) : Complaint where
  message := "Failed to generate shader bindings"
  causes := failure.message :: failure.cause?.toList

def savingComplaint (failure : Failure) : Complaint where
  message := failure.message
  causes := failure.cause?.toList

def run (tree : FileTree) : Logged (Except Complaint Unit × FileTree) := do
  match ← (settings.generate Registry.production).run with
  | .error failure => return (.error (generationComplaint failure), tree)
  | .ok artifacts =>
    match ← ((artifacts.save directory settings.output).run).run tree with
    | (.error failure, tree) => return (.error (savingComplaint failure), tree)
    | (.ok report, tree) =>
      Logged.send (reportEntry report)
      return (.ok (), tree)

/-- The lines that show a complaint. Several causes are numbered. -/
def Complaint.lines (complaint : Complaint) : List String :=
  let causes :=
    match complaint.causes with
    | [] => []
    | [cause] => ["", "Caused by:", "    " ++ cause]
    | causes =>
      "" :: "Caused by:" ::
        causes.zipIdx.map fun (cause, i) => "    " ++ toString i ++ ": " ++ cause
  ("Error: " ++ complaint.message) :: causes

structure Outcome where
  exitCode : Nat
  errorLines : List String
  tree : FileTree

/-- The command under a filter for the log, if one is given. -/
def outcome (filter? : Option String) (tree : FileTree) : Outcome :=
  let (filter, complaints) := Filter.parse (filter?.getD "info")
  let warnings := complaints.flatMap fun complaint => complaint.splitOn "\n"
  let result := run tree
  let logged := (result.entries.filter filter.shows).map Entry.line
  match result.value with
  | (.ok _, tree) => ⟨0, warnings ++ logged, tree⟩
  | (.error complaint, tree) => ⟨1, warnings ++ logged ++ complaint.lines, tree⟩

end ShaderHandles.CommandLine
