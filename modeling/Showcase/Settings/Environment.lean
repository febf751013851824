import Showcase.Settings.Basic
import Showcase.Settings.File

namespace Showcase

/-! # Settings from the environment

Variables of one family, which begin with its name and an underscore, set some of the
settings.  One malformed variable makes the whole layer fail.
-/

/-- The variables and their values, kept like paths because the system takes any bytes for them. -/
abbrev Environment := List (String × String)

namespace Environment

/-- The family of variables that is read where no other is asked for. -/
def defaultFamily : String := "COMPONENT_README"

def variableName (family key : String) : String := family ++ "_" ++ key

/-- The value of a variable of a family.  A value that is no text counts as none. -/
def value? (environment : Environment) (family key : String) : Option String :=
  (environment.lookup (variableName family key)).bind Path.text?

/-- The variables of a family that mean something. -/
def keys : List String :=
  ["SCAN_PATH", "EXCLUDE", "CONFIG_NAME", "JS_ONLY", "OUTPUT_FORMAT", "PARALLEL", "FAIL_FAST"]

/-- Whether some variable of a family is set. -/
def speaks (environment : Environment) (family : String) : Bool :=
  keys.any fun key => (environment.value? family key).isSome

/-- The parts of a list with commas, without the blanks around them; empty ones do not
count. -/
def listed (s : String) : List String :=
  ((s.splitOn ",").map Text.trimmed).filter (· ≠ "")

def lowered (s : String) : String := String.ofList (s.toList.map Char.toLower)

def truth? (word : String) : Option Bool :=
  if word ∈ ["1", "true", "yes", "on"] then some true
  else if word ∈ ["0", "false", "no", "off"] then some false
  else none

def flag (environment : Environment) (family key : String) : Except Fault (Option Bool) :=
  match environment.value? family key with
  | none => .ok none
  | some s =>
    let word := lowered (Text.trimmed s)
    match truth? word with
    | some b => .ok (some b)
    | none =>
      .error (.config s!"{variableName family key} must be a boolean, got '{word}'")

def format (environment : Environment) (family key : String) :
    Except Fault (Option OutputFormat) :=
  match environment.value? family key with
  | none => .ok none
  | some s =>
    match OutputFormat.ofAnyCase? s with
    | some f => .ok (some f)
    | none => .error (.config (OutputFormat.unknownMessage s))

/-- The layer that a family of variables makes. -/
def layer (environment : Environment) (family : String) : Except Fault PartialSettings := do
  let outputFormat ← environment.format family "OUTPUT_FORMAT"
  let jsOnly ← environment.flag family "JS_ONLY"
  let parallel ← environment.flag family "PARALLEL"
  let failFast ← environment.flag family "FAIL_FAST"
  return { PartialSettings.empty with
    scanPath := (environment.value? family "SCAN_PATH").map Path.ofText
    excludePatterns := (environment.value? family "EXCLUDE").map listed
    configName := (environment.value? family "CONFIG_NAME").map Path.ofText
    outputFormat, jsOnly, parallel, failFast }

/-- The home directory, as far as it is told by the variable for it.  Where there is none, the
system might still know of one, and it is not asked. -/
def home? (environment : Environment) : Option String :=
  match environment.lookup "HOME" with
  | some "" => none
  | home => home

def configDirectory? (environment : Environment) : Option String :=
  match environment.lookup "XDG_CONFIG_HOME" with
  | some directory =>
    if Path.isAbsolute directory then some directory
    else environment.home?.map (Path.join · ".config")
  | none => environment.home?.map (Path.join · ".config")

/-- The places where a configuration file is looked for, in order. -/
def configPlaces (environment : Environment) : List String :=
  [SettingsFile.defaultName] ++
    (environment.home?.map (Path.join · SettingsFile.defaultName)).toList ++
    (environment.configDirectory?.map fun directory =>
      Path.join (Path.join directory "component-readme") "config.toml").toList

end Environment

end Showcase
