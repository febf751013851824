import Showcase.Settings.Environment
import Showcase.Settings.Arguments

namespace Showcase

/-! # Layers of settings

From the lowest to the highest: the defaults, a configuration file, the environment, and
the command line.  A broken configuration file ends the run, while a broken environment
is left out as a whole.
-/

/-- Where a layer of settings comes from. -/
inductive SettingsSource where
  /-- The configuration file with the usual name. -/
  | usualFile
  | file (path : String)
  /-- The environment of a family. -/
  | environment (family : String)
  | commandLine (arguments : Arguments)
deriving DecidableEq, Repr

namespace SettingsSource

def name : SettingsSource → String
  | usualFile => "default config file"
  | file path => s!"config file ({Path.shown path})"
  | environment family => s!"{family} environment variables"
  | commandLine _ => "command-line arguments"

/-- The rank that a source states.  It is not what the layers are ordered by. -/
def priority : SettingsSource → Nat
  | usualFile | file _ => 20
  | environment _ => 10
  | commandLine _ => 30

/-- Whether a source has anything to say. -/
def isAvailable (disk : Disk) (environment : Environment) : SettingsSource → Bool
  | usualFile => disk.isFile SettingsFile.defaultName
  | file path => disk.isFile path
  | .environment family => environment.speaks family
  | commandLine _ => true

def load (disk : Disk) (environment : Environment) : SettingsSource → Except Fault PartialSettings
  | usualFile => SettingsFile.load disk SettingsFile.defaultName
  | file path => SettingsFile.load disk path
  | .environment family => environment.layer family
  | commandLine arguments => .ok arguments.layer

/-- What a source says, if it has anything to say; a source that cannot be read is left out,
with a notice. -/
def tried (source : SettingsSource) (disk : Disk) (environment : Environment) :
    PartialSettings × List Notice :=
  if source.isAvailable disk environment then
    match source.load disk environment with
    | .ok layer => (layer, [])
    | .error fault => (.empty, [.ignoredSource source.name fault.message])
  else (.empty, [])

end SettingsSource

namespace PartialSettings

/-- The settings that a layer makes, if a run with them can begin. -/
def build (layer : PartialSettings) (disk : Disk) : Except Fault Settings :=
  match layer.complete.validate disk with
  | .ok () => .ok layer.complete
  | .error fault => .error fault

end PartialSettings

namespace Settings

/-- The layer of the configuration file, if one is named or found. -/
def fileLayer (disk : Disk) (environment : Environment) (arguments : Arguments) :
    Except Fault PartialSettings :=
  match arguments.config <|> SettingsFile.first? disk environment.configPlaces with
  | some path => (SettingsSource.file path).load disk environment
  | none => .ok .empty

/-- The layer of a family of variables, with a notice if it is left out. -/
def environmentLayer (disk : Disk) (environment : Environment) (family : String) :
    PartialSettings × List Notice :=
  (SettingsSource.environment family).tried disk environment

def load (disk : Disk) (environment : Environment) (family : String) (arguments : Arguments) :
    Loaded Settings :=
  match fileLayer disk environment arguments with
  | .error fault => ⟨.error fault, []⟩
  | .ok file =>
    let (spoken, notices) := environmentLayer disk environment family
    ⟨((file.merge spoken).merge arguments.layer).build disk, notices⟩

end Settings

end Showcase
