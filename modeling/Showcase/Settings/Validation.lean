import Showcase.Settings.Basic
import Showcase.Disk.Tree
import Showcase.Glob
import Showcase.Fault
import Showcase.Reading.Export
import Showcase.Text.Utf8

namespace Showcase

/-! # Validation of settings -/

namespace Settings

/-- The name of the descriptions is a bare file name without an extension that a language
has. -/
def validateConfigName (name : String) : Except Fault Unit :=
  if Text.trimmed name = "" then .error (.config "Config name must not be empty")
  else if name.toList.any fun c => c = '/' || c = '\\' then
    .error (.config s!"Config name '{Path.shown name}' must be a file name, not a path")
  else
    match Path.extension? name with
    | none => .ok ()
    | some extension =>
      if (Language.ofExtension? extension).isSome then
        .error (.config
          s!"Config name '{Path.shown name}' must not include the .{extension} extension")
      else .ok ()

/-- The patterns have to be well formed. -/
def validatePatterns : List String → Except Fault Unit
  | [] => .ok ()
  | pattern :: rest =>
    match Glob.parse pattern with
    | .ok _ => validatePatterns rest
    | .error fault => .error (.inContext s!"Invalid exclude pattern: {pattern}" fault.message)

/-- The directory of the output file has to exist. -/
def validateOutputPath (disk : Disk) (path : String) : Except Fault Unit :=
  match Path.parent? path with
  | none => .ok ()
  | some parent =>
    if parent = "" ∨ disk.exists? parent then .ok ()
    else .error (.outputDirectoryNotFound parent)

/-- Whether a run with these settings can begin. -/
def validate (disk : Disk) (settings : Settings) : Except Fault Unit := do
  if !disk.isDirectory settings.scanPath then throw (.invalidPath settings.scanPath)
  validatePatterns settings.excludePatterns
  validateConfigName settings.configName
  match settings.outputFile with
  | some path => validateOutputPath disk path
  | none => return

end Settings

namespace PartialSettings

def validatePatterns (path : String) : List String → Except Fault Unit
  | [] => .ok ()
  | pattern :: rest =>
    if pattern = "" then
      .error (.config s!"Empty exclude pattern in config file: {Path.shown path}")
    else
      match Glob.parse pattern with
      | .ok _ => validatePatterns path rest
      | .error fault =>
        .error (.config
          s!"Invalid exclude pattern '{pattern}' in config file: {Path.shown path}: {fault.message}")

/-- Whether the layer of the configuration file `path` makes sense. -/
def validate (path : String) (layer : PartialSettings) : Except Fault Unit := do
  if layer.scanPath = some "" then
    throw (.config s!"Invalid empty scan_path in config file: {Path.shown path}")
  validatePatterns path (layer.excludePatterns.getD [])
  if layer.configName.any fun name => Text.trimmed name = "" then
    throw (.config s!"Invalid empty config_name in config file: {Path.shown path}")
  if layer.outputFile = some "" then
    throw (.config s!"Invalid empty output_file in config file: {Path.shown path}")

end PartialSettings

end Showcase
