import Showcase.Collection.Results

namespace Showcase.Report

/-! # Results as comma-separated values

Each record is a line.  A field with a comma, a quote or a line break stands in quotes,
in which a quote is written twice.  All records have as many fields as the first.  They are
written as bytes, which are then taken for a text.
-/

namespace Csv

/-- Whether a character makes quotes necessary. -/
def isSpecial (c : Char) : Bool := c = ',' || c = '"' || c = '\n' || c = '\r'

def quoted (field : List Char) : List Char :=
  '"' :: field.flatMap (fun c => if c = '"' then ['"', '"'] else [c]) ++ ['"']

def field (text : String) : List Char :=
  if text.toList.any isSpecial then quoted text.toList else text.toList

/-- A record with the end of its line. -/
def record (fields : List String) : List Char :=
  ((fields.map field).intersperse [',']).flatten ++ ['\n']

/-- The wording for a record that is longer or shorter than the one before it. -/
def unequal (length before : Nat) : Fault :=
  .csv s!"CSV error: found record with {length} fields, but the previous record has {before} fields"

/-- Records one after another, each with `width` fields. -/
def lines (width : Nat) : List (List String) → Except Fault (List Char)
  | [] => .ok []
  | fields :: rest =>
    if fields.length = width then (lines width rest).map (record fields ++ ·)
    else .error (unequal fields.length width)

/-- The text of records. -/
def document (records : List (List String)) : Except Fault String :=
  match lines (records.headD []).length records with
  | .error fault => .error fault
  | .ok cs =>
    match Text.decode (Text.encode cs) with
    | .ok text => .ok text
    | .error fault => .error (.csvText fault.message)

end Csv

def csvHeader : List String :=
  ["name", "title", "folder", "config_path", "language", "component_source", "component_line",
   "component_column", "props_entries"]

def csvRecord (component : FolderOptions) : List String :=
  [component.name, component.title, Path.shown component.folder, Path.shown component.configPath,
   component.language.extension, component.component.source.display,
   toString component.component.location.line, toString component.component.location.column,
   toString component.props.length]

def csv (results : Results) : Except Fault String :=
  Csv.document (csvHeader :: results.components.map csvRecord)

end Showcase.Report
