import Showcase.Collection.Results
import Showcase.Report.Duration

namespace Showcase.Report

/-! # Results as a JSON value

The members of each object stand in the order of the fields they show.  A path is written
as the text that it is, and one that is no text cannot be written.
-/

def optionalText : Option String → Json
  | some s => .string s
  | none => .null

def count (n : Nat) : Json := .number (.int n)

def pathData (path : String) : Except Fault Json :=
  match Path.text? path with
  | some text => .ok (.string text)
  | none => .error (.jsonText "path contains invalid UTF-8 characters")

def locationData (location : Location) : Except Fault Json := do
  return .object [("path", ← pathData location.path), ("line", count location.line),
    ("column", count location.column)]

def snippetData (snippet : Snippet) : Except Fault Json := do
  return .object [("code", .string snippet.code), ("source", .string snippet.source.display),
    ("location", ← locationData snippet.location)]

def entryOptionsData (options : EntryOptions) : Json :=
  .object [("alt", optionalText options.alt), ("readme", optionalText options.readme),
    ("screenshot", options.screenshot.getD .null)]

def entryData (entry : PropsEntry) : Json :=
  .object [("index", count entry.index), ("code", .string entry.code),
    ("readme_code", optionalText entry.readmeCode), ("options", entryOptionsData entry.options)]

def metadataData (metadata : FolderMeta) : Json :=
  .object [("title", optionalText metadata.title),
    ("description", optionalText metadata.description), ("readme", optionalText metadata.readme),
    ("screenshot", metadata.screenshot.getD .null)]

def componentData (component : FolderOptions) : Except Fault Json := do
  return .object [("name", .string component.name), ("folder", ← pathData component.folder),
    ("config_path", ← pathData component.configPath),
    ("language", .string component.language.extension),
    ("component", ← snippetData component.component),
    ("props", .array (component.props.map entryData)),
    ("meta", metadataData component.metadata)]

def globalData (options : GlobalOptions) : Json :=
  .object [("title", optionalText options.title), ("description", optionalText options.description),
    ("screenshot", options.screenshot.getD .null)]

def errorData (error : FolderError) : Except Fault Json := do
  return .object [("folder", ← pathData error.folder), ("message", .string error.message),
    ("severity", .string error.severity.tag)]

/-- The bound of durations, which are kept in 64 bits. -/
def durationBound : Nat := Nat.pow 2 64

def summaryData (summary : Summary) : Json :=
  .object [("total_folders", count summary.totalFolders), ("components", count summary.components),
    ("props_entries", count summary.propsEntries), ("failed_folders", count summary.failedFolders),
    ("duration", count (milliseconds summary.duration % durationBound))]

def optionalGlobalData : Option GlobalOptions → Json
  | some options => globalData options
  | none => .null

def data (results : Results) : Except Fault Json := do
  return .object [("root", ← pathData results.root),
    ("global", optionalGlobalData results.global),
    ("components", .array (← results.components.mapM componentData)),
    ("errors", .array (← results.errors.mapM errorData)),
    ("summary", summaryData results.summary),
    ("generated_at", .string results.generatedAt.display)]

def json (results : Results) : Except Fault String := do
  return (← data results).pretty 0

end Showcase.Report
