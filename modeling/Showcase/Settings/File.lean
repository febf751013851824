import Showcase.Settings.Validation
import Showcase.Toml.Document

namespace Showcase

/-! # Configuration files

A configuration file sets some of the settings by name.  Entries of other names are
passed over, as long as the file is well formed and its numbers are in range.
-/

namespace Toml

/-- The text that a value is. -/
def text? : Toml → Option String
  | string s => some s
  | _ => none

/-- The text that a value is, as a path. -/
def path? (v : Toml) : Option String := v.text?.map Path.ofText

/-- The truth value that a value is. -/
def flag? : Toml → Option Bool
  | boolean b => some b
  | _ => none

/-- The texts that a value lists. -/
def texts? : Toml → Option (List String)
  | array _ items => items.mapM text?
  | _ => none

/-- The format that a value names.  Instead of the name alone there may be a table with
the name as its only key and nothing in it. -/
def format? : Toml → Option OutputFormat
  | string s => OutputFormat.ofName? s
  | table _ [(name, array _ [])] => OutputFormat.ofName? name
  | table _ [(name, table _ [])] => OutputFormat.ofName? name
  | _ => none

mutual

/-- Whether all numbers in a value are in range. -/
def numbersInRange : Toml → Bool
  | number inRange => inRange
  | array _ items => itemsInRange items
  | table _ entries => entriesInRange entries
  | _ => true

def itemsInRange : List Toml → Bool
  | [] => true
  | v :: rest => v.numbersInRange && itemsInRange rest

def entriesInRange : List (String × Toml) → Bool
  | [] => true
  | (_, v) :: rest => v.numbersInRange && entriesInRange rest

end

end Toml

namespace SettingsFile

/-- The name of a configuration file where none is given. -/
def defaultName : String := ".component-readme.toml"

/-- What a file holds that sets everything to its default. -/
def template : String :=
  "\n".intercalate [
    "# component-readme configuration",
    "#",
    "# Values here are overridden by COMPONENT_README_* environment variables",
    "# and by command-line flags.",
    "",
    "# Directory holding one folder per component (defaults to the current directory)",
    "# scan_path = \"src/components\"",
    "",
    "# Component folders to skip, as glob patterns matched against folder names",
    "exclude_patterns = [\"node_modules\", \".*\", \"__*\"]",
    "",
    "# Base name of each folder's config file; readme.ts, readme.tsx and readme.js",
    "# are tried in that order",
    "config_name = \"readme\"",
    "",
    "# Only look for readme.js",
    "js_only = false",
    "",
    "# Output format: text, json, csv or markdown",
    "output_format = \"text\"",
    "",
    "# Write results to a file instead of stdout",
    "# output_file = \"README.md\"",
    "",
    "# Load component folders in parallel",
    "parallel = true",
    "",
    "# Abort on the first folder that fails to load",
    "fail_fast = false",
    "",
    "quiet = false",
    "verbose = false",
    "use_colors = true",
    "show_progress = true",
    "",
    "# Treat symbolic links to directories as component folders",
    "follow_links = false",
    ""]

/-- How a value changes a layer, if it has the right type. -/
abbrev Setter := Toml → PartialSettings → Option PartialSettings

def setters : List (String × Setter) :=
  [("scan_path", fun v layer => v.path?.map fun s => { layer with scanPath := some s }),
   ("exclude_patterns", fun v layer => v.texts?.map fun s => { layer with excludePatterns := some s }),
   ("config_name", fun v layer => v.path?.map fun s => { layer with configName := some s }),
   ("js_only", fun v layer => v.flag?.map fun b => { layer with jsOnly := some b }),
   ("output_format", fun v layer => v.format?.map fun f => { layer with outputFormat := some f }),
   ("output_file", fun v layer => v.path?.map fun s => { layer with outputFile := some s }),
   ("parallel", fun v layer => v.flag?.map fun b => { layer with parallel := some b }),
   ("fail_fast", fun v layer => v.flag?.map fun b => { layer with failFast := some b }),
   ("quiet", fun v layer => v.flag?.map fun b => { layer with quiet := some b }),
   ("verbose", fun v layer => v.flag?.map fun b => { layer with verbose := some b }),
   ("use_colors", fun v layer => v.flag?.map fun b => { layer with useColors := some b }),
   ("show_progress", fun v layer => v.flag?.map fun b => { layer with showProgress := some b }),
   ("follow_links", fun v layer => v.flag?.map fun b => { layer with followLinks := some b })]

/-- The layer that entries make of `layer`. -/
def layerFrom? (layer : PartialSettings) : Toml.Entries → Option PartialSettings
  | [] => some layer
  | (key, v) :: rest =>
    match setters.lookup key with
    | none => if v.numbersInRange then layerFrom? layer rest else none
    | some set => (set v layer).bind fun layer => layerFrom? layer rest

def layer? (entries : Toml.Entries) : Option PartialSettings := layerFrom? .empty entries

/-- Reads the text of the configuration file `path`.  The cause that is told for a text that is no
table of settings is made up; it stands for the words of the reader of the file format. -/
def parse (path text : String) : Except Fault PartialSettings :=
  match (Toml.parse? text).bind layer? with
  | none => .error (.configParse path "not a table of settings")
  | some layer =>
    match layer.validate path with
    | .ok () => .ok layer
    | .error fault => .error fault

/-- Reads the configuration file `path`. -/
def load (disk : Disk) (path : String) : Except Fault PartialSettings :=
  if !disk.isFile path then .error (.configNotFound path)
  else
    match disk.readText path with
    | .ok text => parse path text
    | .error fault => .error (.configRead path fault.message)

/-- The first configuration file that exists among those at some places. -/
def first? (disk : Disk) (places : List String) : Option String := places.find? disk.isFile

/-- Writes the template to `path`, making the directories on the way. -/
def create (disk : Disk) (path : String) : Except Fault Disk :=
  let write (disk : Disk) : Except Fault Disk :=
    match disk.writeText path template with
    | .ok disk => .ok disk
    | .error fault => .error (.outputWrite path fault.message)
  match Path.parent? path with
  | none => write disk
  | some parent =>
    if parent = "" ∨ disk.exists? parent then write disk
    else
      match disk.makeDirectories (Path.segments parent).length parent with
      | .ok disk => write disk
      | .error fault => .error (.io fault.message)

end SettingsFile

end Showcase
