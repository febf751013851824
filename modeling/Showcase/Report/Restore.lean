import Showcase.Json.Reader
import Showcase.Report.Data

namespace Showcase

/-! # Results read back

Results are read from what is written of them, under the names that the writer gives, and paths
from the texts that they are.  A record
may also be an array of its members in their order.  Members of other names are passed over, none
may stand twice, and where one is missing it is an empty option, or else nothing is read.
-/

namespace Json

def text? : Json → Option String
  | string s => some s
  | _ => none

/-- A text as a path. -/
def path? (v : Json) : Option String := v.text?.map Path.ofText

def count? : Json → Option Nat
  | number (.int n) => if 0 ≤ n ∧ n ≤ Reader.largestWhole then some n.toNat else none
  | _ => none

/-- The name of a choice, which stands alone or as the name of an empty member. -/
def choice? : Json → Option String
  | string s => some s
  | object [(name, null)] => some name
  | _ => none

def listOf? (read : Json → Option α) : Json → Option (List α)
  | array items => items.mapM read
  | _ => none

/-- What is read of a member that may be missing or `null`. -/
def optional? (read : Json → Option α) : Option Json → Option (Option α)
  | none | some null => some none
  | some v => (read v).map some

end Json

namespace Record

/-- Whether a member of one of the names stands twice. -/
def repeats (names : List String) (members : List (String × Json)) : Bool :=
  names.any fun name => 1 < members.countP fun member => member.1 = name

/-- The members of a record by their names, all of which an array has to have. -/
def values? (names : List String) : Json → Option (List (Option Json))
  | .object members =>
    if repeats names members then none else some (names.map (Json.member? members))
  | .array items => if items.length = names.length then some (items.map some) else none
  | _ => none

/-- Options, any of which may be missing. -/
def options? (fields : List (String × Setter ρ)) (read : Json → Except ShapeFault ρ) (v : Json) :
    Option ρ :=
  match v with
  | .object members =>
    if repeats (fields.map (·.1)) members then none else (read v.ordered).toOption
  | v => (read v.ordered).toOption

end Record

def Location.ofJson? (v : Json) : Option Location :=
  match Record.values? ["path", "line", "column"] v with
  | some [path, line, column] => do
    return { path := ← path.bind Json.path?
             line := ← line.bind Json.count?
             column := ← column.bind Json.count? }
  | _ => none

def ComponentSource.ofDisplay? : String → Option ComponentSource
  | "inline" => some .inline
  | "declaration" => some .declaration
  | "method" => some .method
  | _ => none

def Snippet.ofJson? (v : Json) : Option Snippet :=
  match Record.values? ["code", "source", "location"] v with
  | some [code, source, location] => do
    return { code := ← code.bind Json.text?
             source := ← (source.bind Json.choice?).bind ComponentSource.ofDisplay?
             location := ← location.bind Location.ofJson? }
  | _ => none

def PropsEntry.ofJson? (v : Json) : Option PropsEntry :=
  match Record.values? ["index", "code", "readme_code", "options"] v with
  | some [index, code, readmeCode, options] => do
    return { index := ← index.bind Json.count?
             code := ← code.bind Json.text?
             readmeCode := ← Json.optional? Json.text? readmeCode
             options := ← options.bind (Record.options? EntryOptions.fields EntryOptions.ofJson) }
  | _ => none

def FolderOptions.ofJson? (v : Json) : Option FolderOptions :=
  match Record.values? ["name", "folder", "config_path", "language", "component", "props", "meta"] v
  with
  | some [name, folder, configPath, language, component, props, metadata] => do
    return { name := ← name.bind Json.text?
             folder := ← folder.bind Json.path?
             configPath := ← configPath.bind Json.path?
             language := ← (language.bind Json.choice?).bind Language.ofExtension?
             component := ← component.bind Snippet.ofJson?
             props := ← props.bind (Json.listOf? PropsEntry.ofJson?)
             metadata := ← metadata.bind (Record.options? FolderMeta.fields FolderMeta.ofJson) }
  | _ => none

def Severity.ofTag? : String → Option Severity
  | "warning" => some .warning
  | "error" => some .error
  | "critical" => some .critical
  | _ => none

def FolderError.ofJson? (v : Json) : Option FolderError :=
  match Record.values? ["folder", "message", "severity"] v with
  | some [folder, message, severity] => do
    return { folder := ← folder.bind Json.path?
             message := ← message.bind Json.text?
             severity := ← (severity.bind Json.choice?).bind Severity.ofTag? }
  | _ => none

/-- The duration of a summary is written in milliseconds. -/
def Summary.ofJson? (v : Json) : Option Summary :=
  match Record.values?
    ["total_folders", "components", "props_entries", "failed_folders", "duration"] v with
  | some [totalFolders, components, propsEntries, failedFolders, duration] => do
    return { totalFolders := ← totalFolders.bind Json.count?
             components := ← components.bind Json.count?
             propsEntries := ← propsEntries.bind Json.count?
             failedFolders := ← failedFolders.bind Json.count?
             duration := (← duration.bind Json.count?) * Report.nanosecondsPerMillisecond }
  | _ => none

namespace Results

def ofJson? (v : Json) : Option Results :=
  match Record.values? ["root", "global", "components", "errors", "summary", "generated_at"] v with
  | some [root, options, components, errors, summary, generatedAt] => do
    return { root := ← root.bind Json.path?
             global := ←
               Json.optional? (Record.options? GlobalOptions.fields GlobalOptions.ofJson) options
             components := ← components.bind (Json.listOf? FolderOptions.ofJson?)
             errors := ← errors.bind (Json.listOf? FolderError.ofJson?)
             summary := ← summary.bind Summary.ofJson?
             generatedAt := ← (generatedAt.bind Json.text?).bind Timestamp.parse? }
  | _ => none

/-- Reads results from a text with a bound on the nesting. -/
def ofText? (limit : Nat) (text : String) : Option Results :=
  match Json.Reader.document Json.append limit text.toList with
  | .ok v => ofJson? v
  | .error _ => none

end Results

end Showcase
