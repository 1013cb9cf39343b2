import ShaderHandles.Main
import ShaderHandles.Registry.Document
import ShaderHandles.Settings.Document
import ShaderHandles.Text.Utf8
import ShaderHandles.Proofs.Template.Trees
import ShaderHandles.Proofs.Artifacts.Layout
import ShaderHandles.Proofs.Registry.WellFormed
import ShaderHandles.Proofs.C.Token
import ShaderHandles.Proofs.C.Syntax
import ShaderHandles.Proofs.Shader.Place
import ShaderHandles.Proofs.C.Reader
import ShaderHandles.Proofs.C.Balance
import ShaderHandles.Proofs.Shader.Trees
import ShaderHandles.Proofs.Text.Lines
import ShaderHandles.Proofs.Artifacts.Correspondence
import ShaderHandles.Proofs.Artifacts.Lines
import ShaderHandles.Proofs.FileTree.Target
import ShaderHandles.Proofs.FileTree.Disk
import ShaderHandles.Proofs.Artifacts.Saving
import ShaderHandles.Proofs.Artifacts.Resaving
import ShaderHandles.Proofs.Artifacts.Interruption
import ShaderHandles.Proofs.Artifacts.Units
import ShaderHandles.Proofs.C.Scope
import ShaderHandles.Proofs.Artifacts.Soundness
import ShaderHandles.Proofs.C.Machine
import ShaderHandles.Proofs.Shader.Loading
import ShaderHandles.Proofs.Artifacts.LoadRoutine
import ShaderHandles.Proofs.Registry.Acceptance
import ShaderHandles.Proofs.Artifacts.Rounds
import ShaderHandles.Proofs.Artifacts.Recovery
import ShaderHandles.Proofs.Table
import ShaderHandles.Proofs.Documents
import ShaderHandles.Proofs.Artifacts.Container
import ShaderHandles.Proofs.Artifacts.Expansion
import ShaderHandles.Proofs.Registry.Order
import ShaderHandles.Proofs.Artifacts.Reordering
import ShaderHandles.Proofs.Json.Literal
import ShaderHandles.Proofs.Json.Token
import ShaderHandles.Proofs.Json.Outcome
import ShaderHandles.Proofs.Json.Override
import ShaderHandles.Proofs.Settings.Override
import ShaderHandles.Proofs.Json.Decoding
import ShaderHandles.Proofs.Json.Compact
import ShaderHandles.Proofs.Shader.Object
import ShaderHandles.Proofs.Registry.Spelling
import ShaderHandles.Proofs.Shader.Fragments
import ShaderHandles.Proofs.Registry.Repetition
import ShaderHandles.Proofs.Registry.Report
import ShaderHandles.Proofs.Registry.Composition
import ShaderHandles.Proofs.C.Literals
import ShaderHandles.Proofs.Artifacts.SourcePaths
import ShaderHandles.Proofs.Artifacts.Separator
import ShaderHandles.Proofs.Artifacts.Trace
import ShaderHandles.Proofs.Artifacts.Insertion
