import Showcase.Disk.Bytes

namespace Showcase

/-! # What can go wrong

Every failure names the file and the part of a description that it concerns.  Its
severity decides how far it reaches: a warning or an error costs one folder, a
critical failure ends the run.  Where a failure is put into words, its path is shown.
-/

/-- The parts of a component description. -/
inductive Role where
  | component
  | props
  | config
deriving DecidableEq, Repr, Inhabited

def Role.display : Role → String
  | component => "component"
  | props => "props"
  | config => "config"

/-- How far a failure reaches. -/
inductive Severity where
  | warning
  | error
  | critical
deriving DecidableEq, Repr, Inhabited

def Severity.display : Severity → String
  | warning => "WARNING"
  | error => "ERROR"
  | critical => "CRITICAL"

/-- The name of a severity in results. -/
def Severity.tag : Severity → String
  | warning => "warning"
  | error => "error"
  | critical => "critical"

/-- A failure. -/
inductive Fault where
  | io (cause : String)
  | sourceRead (path cause : String)
  | notFound (candidates : List String)
  | ambiguousExport (path : String) (candidates : Nat)
  | unparsed (path : String) (messages : List String)
  | extraction (role : Role) (path message : String)
  | missingMember (role : Role) (path : String)
  | invalidOptions (role : Role) (path cause : String)
  | config (message : String)
  | permissionDenied (path : String)
  | invalidPath (path : String)
  | tomlSource (cause : String)
  | csv (cause : String)
  | globPattern (cause : String)
  | configNotFound (path : String)
  | configRead (path cause : String)
  | configParse (path cause : String)
  | outputWrite (path cause : String)
  | stdoutWrite (cause : String)
  | traversal (path message : String)
  | jsonText (cause : String)
  | csvText (cause : String)
  | outputDirectoryNotFound (path : String)
deriving DecidableEq, Repr, Inhabited

namespace Fault

/-- A single candidate is named as such, several are listed with commas. -/
def notFoundMessage : List String → String
  | [single] => s!"cannot find `{Path.shown single}`"
  | candidates => "cannot find one of `" ++ ",".intercalate (candidates.map Path.shown) ++ "`"

def message : Fault → String
  | io cause => s!"IO error: {cause}"
  | sourceRead path cause => s!"Error reading {Path.shown path}: {cause}"
  | notFound candidates => notFoundMessage candidates
  | ambiguousExport path candidates =>
    s!"no definitive export in {Path.shown path} ({candidates} candidates)"
  | unparsed _ messages => "\n".intercalate messages
  | extraction role path message =>
    s!"error parsing {role.display} in {Path.shown path}\n{message}"
  | missingMember role path => s!"could not parse {role.display} in {Path.shown path}"
  | invalidOptions role path cause =>
    s!"Invalid {role.display} options in {Path.shown path}: {cause}"
  | config message => s!"Configuration error: {message}"
  | permissionDenied path => s!"Permission denied accessing {Path.shown path}"
  | invalidPath path => s!"Invalid path: {Path.shown path}"
  | tomlSource cause => s!"TOML parsing error: {cause}"
  | csv cause => s!"CSV error: {cause}"
  | globPattern cause => s!"Glob pattern error: {cause}"
  | configNotFound path => s!"Configuration file not found at {Path.shown path}"
  | configRead path cause => s!"Error reading configuration file {Path.shown path}: {cause}"
  | configParse path cause => s!"Error parsing configuration file {Path.shown path}: {cause}"
  | outputWrite path cause => s!"Error writing to output file {Path.shown path}: {cause}"
  | stdoutWrite cause => s!"Error writing to stdout: {cause}"
  | traversal path message => s!"Directory traversal error for {Path.shown path}: {message}"
  | jsonText cause => s!"JSON serialization error: {cause}"
  | csvText cause => s!"CSV serialization error: {cause}"
  | outputDirectoryNotFound path => s!"Output directory not found: {Path.shown path}"

/-- How far a failure reaches. -/
def severity : Fault → Severity
  | permissionDenied _ => .warning
  | config _ | configNotFound _ | configRead _ _ | configParse _ _ | stdoutWrite _
  | outputDirectoryNotFound _ | invalidPath _ => .critical
  | _ => .error

/-- Whether a failure ends the run. -/
def isCritical (fault : Fault) : Bool := fault.severity = .critical

/-- The wording for the person at the terminal, with advice where there is some. -/
def userMessage : Fault → String
  | permissionDenied path =>
    s!"Cannot access '{Path.shown path}' due to permission denied. Check file permissions."
  | io cause => s!"File system error: {cause}. Check disk space and permissions."
  | invalidPath path =>
    s!"Invalid path: '{Path.shown path}'. Please provide a valid components directory."
  | configNotFound path =>
    s!"Configuration file not found at '{Path.shown path}'. Create a config file or use command line options."
  | outputDirectoryNotFound path =>
    s!"Output directory '{Path.shown path}' does not exist. Please create the directory or specify a different output path."
  | fault => fault.message

/-- Names the part and the file in which a failure happened. -/
def inRole (role : Role) (path : String) (fault : Fault) : Fault :=
  extraction role path fault.message

/-- Names what was being looked at when something outside failed with a cause. -/
def inContext (context cause : String) : Fault := config s!"{context}: {cause}"

end Fault

/-- The exit code of a run that ends with a failure of this severity. -/
def Severity.exitCode : Severity → Nat
  | warning => 0
  | error => 1
  | critical => 2

/-- The level of a log entry. -/
inductive LogLevel where
  | warn
  | error
deriving DecidableEq, Repr

def LogLevel.display : LogLevel → String
  | warn => "WARN"
  | error => "ERROR"

/-- Something worth telling that does not end the run by itself. -/
inductive Notice where
  /-- The component `name` of the file `path` is imported from `module`. -/
  | importedComponent (path name module : String)
  | ignoredSource (source error : String)
  | globalUnreadable (root error : String)
  | handled (fault : Fault)
deriving DecidableEq, Repr

namespace Notice

def level : Notice → LogLevel
  | handled fault => if fault.severity = .warning then .warn else .error
  | _ => .warn

def message : Notice → String
  | importedComponent _ _ _ =>
    "component is imported; only definitions in the same file can be extracted"
  | ignoredSource _ _ => "ignoring configuration source"
  | globalUnreadable _ _ => "global options could not be loaded"
  | handled fault => (if fault.isCritical then "critical: " else "") ++ fault.userMessage

/-- The named values that come with a notice. -/
def fields : Notice → List (String × String)
  | importedComponent path name module =>
    [("path", Path.shown path), ("name", name), ("import", module)]
  | ignoredSource source error => [("source", source), ("error", error)]
  | globalUnreadable root error => [("root", Path.shown root), ("error", error)]
  | handled _ => []

end Notice

/-- What was loaded, with what is worth telling. -/
structure Loaded (α : Type) where
  outcome : Except Fault α
  notices : List Notice

theorem eq_ok_of_toOption {outcome : Except ε α} {a : α} (h : outcome.toOption = some a) :
    outcome = .ok a := by
  cases outcome with
  | ok b => exact congrArg Except.ok (Option.some.inj h)
  | error fault => cases h

theorem exists_of_bind_eq_ok {x : Except ε α} {f : α → Except ε β} {b : β}
    (h : (x >>= f) = .ok b) : ∃ a, x = .ok a ∧ f a = .ok b := by
  cases x with
  | error fault => cases h
  | ok a => exact ⟨a, rfl, h⟩

theorem exists_of_map_eq_ok {x : Except ε α} {f : α → β} {b : β} (h : x.map f = .ok b) :
    ∃ a, x = .ok a ∧ f a = b := by
  cases x with
  | error fault => cases h
  | ok a => exact ⟨a, rfl, Except.ok.inj h⟩

/-- Tells of a failure.  A critical one comes back, for the caller to end the run. -/
def Fault.handle (fault : Fault) : Option Fault × Notice :=
  (if fault.isCritical then some fault else none, .handled fault)

end Showcase
