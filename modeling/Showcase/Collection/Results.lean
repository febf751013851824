import Showcase.Folder.Load
import Showcase.Collection.Timestamp

namespace Showcase

/-! # Results

What a run found: the components that could be loaded, the failures, and their counts.
-/

/-- A failure that cost one folder. -/
structure FolderError where
  folder : String
  message : String
  severity : Severity
deriving DecidableEq, Repr, Inhabited

/-- The counts of a run.  The duration is in nanoseconds. -/
structure Summary where
  totalFolders : Nat
  components : Nat
  propsEntries : Nat
  failedFolders : Nat
  duration : Nat
deriving DecidableEq, Repr, Inhabited

/-- The results of a run. -/
structure Results where
  root : String
  global : Option GlobalOptions
  components : List FolderOptions
  errors : List FolderError
  summary : Summary
  generatedAt : Timestamp
deriving Inhabited

namespace Results

def start (root : String) (now : Timestamp) : Results :=
  { root, global := none, components := [], errors := [], summary := ⟨0, 0, 0, 0, 0⟩
    generatedAt := now }

def addComponent (results : Results) (component : FolderOptions) : Results :=
  { results with
    components := results.components ++ [component]
    summary := { results.summary with
      totalFolders := results.summary.totalFolders + 1
      components := results.summary.components + 1
      propsEntries := results.summary.propsEntries + component.props.length } }

def addError (results : Results) (folder : String) (fault : Fault) : Results :=
  { results with
    errors := results.errors ++ [⟨folder, fault.message, fault.severity⟩]
    summary := { results.summary with
      totalFolders := results.summary.totalFolders + 1
      failedFolders := results.summary.failedFolders + 1 } }

def setDuration (results : Results) (nanoseconds : Nat) : Results :=
  { results with summary := { results.summary with duration := nanoseconds } }

def hasErrors (results : Results) : Bool := !results.errors.isEmpty

/-- The title of the directory of all components. -/
def title? (results : Results) : Option String := results.global.bind (·.title)

end Results

end Showcase
