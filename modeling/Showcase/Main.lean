import Showcase.Command
import Std.Time.DateTime.Timestamp

/-! # The program

What a command may look at is copied into a tree, the command runs on the copy, and the
files that it changed are written back.
-/

namespace Showcase.Program

/-- The result of an action, unless it fails. -/
def attempt (action : IO α) : IO (Option α) := do
  match ← action.toBaseIO with
  | .ok a => return some a
  | .error _ => return none

def contentAt (path : String) : IO Content := do
  return .ofBytes (← IO.FS.readBinFile path).toList

/-- What an entry of a directory is, links not followed.  Only files that are `wanted`
are read. -/
def entryNode (directory name : String) (wanted : Bool) : IO Node := do
  let path := (← IO.FS.realPath directory) / name
  match (← path.symlinkMetadata).type with
  | .dir => return if (← attempt path.readDir).isSome then .directory [] else .closed
  | .symlink =>
    let target ← attempt (IO.FS.realPath path)
    return .link (target.elim "" fun target => target.toString)
  | _ =>
    if wanted then return .file ((← attempt (contentAt path.toString)).getD (.sealed []))
    return .file (.text "")

/-- Copies an entry of a directory, and what it leads to if it is a link. -/
def copyEntry (tree : Node) (directory name : String) (wanted : Bool) : IO Node := do
  let place := (Path.segments directory).filter (!Path.isIdle ·)
  let some node ← attempt (entryNode directory name wanted) | return tree
  let tree := Node.plant node (place ++ [name]) tree
  let .link target := node | return tree
  let targetPlace := (Path.segments target).filter (!Path.isIdle ·)
  let some targetName := targetPlace.getLast? | return tree
  let parent := "/" ++ "/".intercalate targetPlace.dropLast
  let some node ← attempt (entryNode parent targetName wanted) | return tree
  return Node.plant node targetPlace tree

/-- Copies what lies along a path. -/
def copyPath (tree : Node) (path : String) : IO Node := do
  let mut tree := tree
  let mut directory := (← IO.FS.realPath (if Path.isAbsolute path then "/" else ".")).toString
  for segment in (Path.segments path).filter (!Path.isIdle ·) do
    tree ← copyEntry tree directory segment true
    let some next ← attempt (IO.FS.realPath (Path.join directory segment)) | return tree
    directory := next.toString
  return tree

/-- The names in a directory, or none if it cannot be listed. -/
def namesIn (path : String) : IO (List String) := do
  let entries ← attempt (do (← IO.FS.realPath path).readDir)
  return (entries.getD #[]).toList.map fun entry => entry.fileName

/-- Whether a file is of interest for its name. -/
def isWanted (name : String) : Bool :=
  ((Path.extension? name).bind Language.ofExtension?).isSome

/-- Copies the entries of a directory. -/
def copyDirectory (tree : Node) (path : String) : IO Node := do
  let some directory ← attempt (IO.FS.realPath path) | return tree
  (← namesIn path).foldlM (fun tree name =>
    copyEntry tree directory.toString name (isWanted name)) tree

/-- Copies a directory and the directories in it. -/
def copyFolders (tree : Node) (path : String) : IO Node := do
  let tree ← copyDirectory tree path
  (← namesIn path).foldlM (fun tree name => copyDirectory tree (Path.join path name)) tree

/-- The variables that mean something, with their values. -/
def readEnvironment : IO Environment := do
  let names := ["HOME", "XDG_CONFIG_HOME"] ++
    Environment.keys.map (Environment.variableName Environment.defaultFamily)
  let values ← names.mapM fun name => IO.getEnv name
  return (names.zip values).filterMap fun (name, value) => value.map (name, ·)

/-- The settings that a run will have, as far as they decide what it looks at. -/
def expected (disk : Disk) (environment : Environment) (arguments : Arguments) : Settings :=
  let file := (Settings.fileLayer disk environment arguments).toOption.getD .empty
  let (spoken, _) := Settings.environmentLayer disk environment Environment.defaultFamily
  ((file.merge spoken).merge arguments.layer).complete

/-- A copy of what a command may look at. -/
def snapshot (environment : Environment) (arguments : Arguments) : IO Disk := do
  let current := (Path.segments (← IO.FS.realPath ".").toString).filter (!Path.isIdle ·)
  let tree := Node.plant (.directory []) current (.directory [])
  let named := environment.configPlaces ++ arguments.config.toList ++ arguments.path.toList
  let tree ← named.foldlM copyPath tree
  let settings := expected { root := tree, current } environment arguments
  let tree ← (settings.scanPath :: settings.outputFile.toList).foldlM copyPath tree
  return { root := ← copyFolders tree settings.scanPath, current }

/-- Writes the files that a command changed. -/
def apply (before after : Disk) : IO Unit := do
  for (place, content) in before.changes after do
    if let .text s := content then
      IO.FS.writeFile ("/" ++ "/".intercalate place) s

def noticeLine (notice : Notice) : String :=
  notice.level.display ++ " " ++ notice.message ++
    String.join (notice.fields.map fun (name, value) => s!" {name}={value}")

/-- The words that explain how to call the program. -/
def usage : String :=
  "Usage: component-readme [OPTIONS]\n\n" ++
  "  -p, --path <PATH>         Directory holding one folder per component\n" ++
  "  -e, --exclude <PATTERN>   Component folders to skip\n" ++
  "      --config-name <NAME>  Base name of each folder's config file\n" ++
  "      --js-only             Only look for untyped config files\n" ++
  "  -o, --output <FORMAT>     text, json, csv or markdown\n" ++
  "      --output-file <FILE>  File to write output to\n" ++
  "  -q, --quiet               Suppress non-essential output\n" ++
  "  -v, --verbose             Show details\n" ++
  "  -c, --config <FILE>       Path to configuration file\n" ++
  "      --no-parallel         Load component folders one at a time\n" ++
  "      --fail-fast           Stop at the first failing folder\n" ++
  "      --follow-links        Follow symbolic links when listing folders\n" ++
  "      --no-colors           Disable colored output\n" ++
  "      --no-progress         Disable progress bars\n" ++
  "      --init                Create a default configuration file\n" ++
  "  -h, --help                Print help\n" ++
  "  -V, --version             Print version\n"

/-- The wording of arguments that are not taken. -/
def usageMessage : UsageFault → String
  | .unknownArgument => "error: unexpected argument found\n\n" ++ usage
  | .invalidValue | .invalidUtf8 => "error: invalid value for an option\n\n" ++ usage
  | .argumentConflict => "error: an argument cannot be used multiple times\n\n" ++ usage
  | .tooManyValues => "error: unexpected value for a switch\n\n" ++ usage
  | .displayHelp => usage
  | .displayVersion => s!"component-readme {Command.version}\n"

/-- Answers arguments that are not taken. -/
def refuse (fault : UsageFault) : IO UInt32 := do
  match fault with
  | .displayHelp | .displayVersion =>
    IO.print (usageMessage fault)
    return 0
  | fault =>
    IO.eprint (usageMessage fault)
    return 2

def run (arguments : Arguments) : IO UInt32 := do
  let now ← Std.Time.Timestamp.now
  let began ← IO.monoNanosNow
  let environment ← readEnvironment
  let disk ← snapshot environment arguments
  let nanoseconds := now.toNanosecondsSinceUnixEpoch.toInt
  let clock : Clock :=
    { now := ⟨nanoseconds.fdiv Timestamp.second, (nanoseconds.fmod Timestamp.second).toNat⟩
      elapsed := (← IO.monoNanosNow) - began }
  let finished := (Command.ofArguments arguments).run
    { disk, environment, clock, parallel := Schedule.inOrder }
  apply disk finished.disk
  for notice in finished.notices do
    IO.eprintln (noticeLine notice)
  IO.print finished.output
  IO.eprint finished.messages
  return finished.exitCode.toUInt32

end Showcase.Program

def main (words : List String) : IO UInt32 :=
  match Showcase.Arguments.parse words with
  | .ok arguments => Showcase.Program.run arguments
  | .error fault => Showcase.Program.refuse fault
