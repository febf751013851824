import Showcase.Settings.Format

namespace Showcase

/-! # Settings

A layer of settings says something about some of them.  Layers are put on top of each
other field by field: the last one that sets a field decides it, and what no layer sets
has its default.
-/

/-- What a run does. -/
structure Settings where
  /-- The directory with one folder for each component. -/
  scanPath : String
  /-- Wildcard patterns for folders to leave out. -/
  excludePatterns : List String
  /-- The name of the description in each folder, without extension.  Like the paths it names
  files, so it is kept as they are. -/
  configName : String
  /-- Whether only untyped descriptions are looked for. -/
  jsOnly : Bool
  outputFormat : OutputFormat
  outputFile : Option String
  parallel : Bool
  failFast : Bool
  quiet : Bool
  verbose : Bool
  useColors : Bool
  showProgress : Bool
  followLinks : Bool
deriving DecidableEq, Repr, Inhabited

/-- A layer of settings. -/
structure PartialSettings where
  scanPath : Option String
  excludePatterns : Option (List String)
  configName : Option String
  jsOnly : Option Bool
  outputFormat : Option OutputFormat
  outputFile : Option String
  parallel : Option Bool
  failFast : Option Bool
  quiet : Option Bool
  verbose : Option Bool
  useColors : Option Bool
  showProgress : Option Bool
  followLinks : Option Bool
deriving DecidableEq, Repr, Inhabited

/-- The settings of a run about which nothing is said. -/
def Settings.default : Settings :=
  { scanPath := "."
    excludePatterns := ["node_modules", ".*", "__*"]
    configName := "readme"
    jsOnly := false
    outputFormat := .text
    outputFile := none
    parallel := true
    failFast := false
    quiet := false
    verbose := false
    useColors := true
    showProgress := true
    followLinks := false }

namespace PartialSettings

/-- The layer that says nothing. -/
def empty : PartialSettings :=
  ⟨none, none, none, none, none, none, none, none, none, none, none, none, none⟩

/-- The layer `upper` on top of `lower`. -/
def merge (lower upper : PartialSettings) : PartialSettings :=
  { scanPath := upper.scanPath <|> lower.scanPath
    excludePatterns := upper.excludePatterns <|> lower.excludePatterns
    configName := upper.configName <|> lower.configName
    jsOnly := upper.jsOnly <|> lower.jsOnly
    outputFormat := upper.outputFormat <|> lower.outputFormat
    outputFile := upper.outputFile <|> lower.outputFile
    parallel := upper.parallel <|> lower.parallel
    failFast := upper.failFast <|> lower.failFast
    quiet := upper.quiet <|> lower.quiet
    verbose := upper.verbose <|> lower.verbose
    useColors := upper.useColors <|> lower.useColors
    showProgress := upper.showProgress <|> lower.showProgress
    followLinks := upper.followLinks <|> lower.followLinks }

/-- The settings that a layer gives on top of the defaults. -/
def complete (layer : PartialSettings) : Settings :=
  { scanPath := layer.scanPath.getD Settings.default.scanPath
    excludePatterns := layer.excludePatterns.getD Settings.default.excludePatterns
    configName := layer.configName.getD Settings.default.configName
    jsOnly := layer.jsOnly.getD Settings.default.jsOnly
    outputFormat := layer.outputFormat.getD Settings.default.outputFormat
    outputFile := layer.outputFile <|> Settings.default.outputFile
    parallel := layer.parallel.getD Settings.default.parallel
    failFast := layer.failFast.getD Settings.default.failFast
    quiet := layer.quiet.getD Settings.default.quiet
    verbose := layer.verbose.getD Settings.default.verbose
    useColors := layer.useColors.getD Settings.default.useColors
    showProgress := layer.showProgress.getD Settings.default.showProgress
    followLinks := layer.followLinks.getD Settings.default.followLinks }

theorem merge_empty (layer : PartialSettings) : layer.merge empty = layer := by
  cases layer
  simp [merge, empty]

end PartialSettings

end Showcase
