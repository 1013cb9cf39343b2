import ShaderHandles.Registry.Issue
import ShaderHandles.Template.Sources
import ShaderHandles.FileTree.Basic
import ShaderHandles.Json.Fault

/-!
# Failures

Everything that can go wrong for a caller of the library.

* `Failure.message`: the wording.
-/

namespace ShaderHandles

/-- Why an operation of the library gives no result. -/
inductive Failure where
  /-- A template is missing or cannot be rendered. -/
  | template (fault : Template.Fault)
  /-- A text is not the JSON document that was expected. -/
  | document (fault : Json.Fault)
  /-- An artifact cannot be written to its path. -/
  | unwritable (path : String) (fault : FileTree.Fault)
  /-- A registry did not pass the check. -/
  | rejected (issues : List Issue)

/-- The sentence that reports a failure. -/
def Failure.message : Failure → String
  | template fault => "Template error: " ++ fault.message
  | document fault => "JSON parse error: " ++ fault.message
  | unwritable path fault => "Failed to write '" ++ path ++ "': " ++ fault.message
  | rejected issues =>
    "Registry validation failed with " ++ toString issues.length ++ " issue(s): " ++
      String.intercalate "; " (issues.map Issue.message)

/-- The failure behind a failure, as far as it is reported on its own. -/
def Failure.cause? : Failure → Option String
  | unwritable _ fault => some fault.message
  | _ => none

end ShaderHandles
