import Showcase.Collection.Collect
import Showcase.Report.Format
import Showcase.Settings.Layers

namespace Showcase

/-! # Commands

A command either collects the components and writes them out, or makes a configuration
file to begin with.  It reads the disk and the environment and leaves behind two texts, a
disk and an exit code.
-/

/-- What a command is asked to do. -/
inductive Command where
  | generate (arguments : Arguments)
  | init
deriving DecidableEq, Repr

/-- What a command has to work with. -/
structure Machine where
  disk : Disk
  environment : Environment
  clock : Clock
  /-- How work on folders goes if it is parallel. -/
  parallel : Plan
  /-- Why the standard output takes no text, if it takes none. -/
  refusal : Option String := none

/-- How directories are listed. -/
abbrev Listing := Walker → Disk → Except Fault (List String × List Unreadable)

/-- What executing a command leaves behind. -/
structure Execution where
  outcome : Except Fault Unit
  /-- The text for the standard output. -/
  output : String
  /-- The text beside the output. -/
  messages : String
  disk : Disk
  notices : List Notice

/-- What is left behind when the command is over. -/
structure Finished where
  exitCode : Nat
  output : String
  messages : String
  disk : Disk
  notices : List Notice

namespace Command

def ofArguments (arguments : Arguments) : Command :=
  if Switch.init ∈ arguments.switches then .init else .generate arguments

/-- The version that is told. -/
def version : String := "0.1.0"

/-- The paths of the arguments have to exist. -/
def validatePaths (disk : Disk) (arguments : Arguments) : Except Fault Unit := do
  if let some path := arguments.path then
    if !disk.exists? path then throw (.invalidPath path)
  if let some path := arguments.config then
    if !disk.exists? path then throw (.configNotFound path)

/-- What is told at the beginning. -/
def greeting (settings : Settings) : String :=
  if settings.quiet then ""
  else s!"component-readme v{version} scanning {Path.shown settings.scanPath}\n"

/-- The style of the output, which has colours only at the terminal. -/
def style (settings : Settings) : TextStyle :=
  { colors := settings.useColors && settings.outputFile.isNone
    verbose := settings.verbose
    quiet := settings.quiet }

/-- What is told at the end.  The text for people says it all by itself. -/
def farewell (settings : Settings) (results : Results) : String :=
  if settings.quiet ∨ (settings.outputFormat = .text ∧ settings.outputFile = none) then ""
  else
    let summary := results.summary
    s!"{summary.components} components, {summary.propsEntries} props entries, {summary.failedFolders} failed folders in {Report.duration summary.duration}\n" ++
      (match settings.outputFile with
        | some path => s!"Wrote {settings.outputFormat.name} output to {Path.shown path}\n"
        | none => "") ++
      String.join (results.errors.map fun error =>
        s!"  {Path.shown error.folder}: {error.message}\n")

/-- Writes the output to its file, or else to the standard output. -/
def write (machine : Machine) (file : Option String) (content : String) :
    Except Fault (Disk × String) :=
  match file with
  | none =>
    match machine.refusal with
    | none => .ok (machine.disk, content)
    | some cause => .error (.stdoutWrite cause)
  | some path =>
    match machine.disk.writeText path content with
    | .ok disk => .ok (disk, "")
    | .error fault => .error (.outputWrite path fault.message)

/-- An execution that ended before anything was written. -/
def aborted (disk : Disk) (messages : String) (notices : List Notice) (fault : Fault) :
    Execution :=
  { outcome := .error fault, output := "", messages, disk, notices }

/-- Collects the components, puts the results into their format and writes them out. -/
def collectWith (list : Listing) (machine : Machine) (settings : Settings)
    (notices : List Notice) : Execution :=
  match Collector.ofSettings settings with
  | .error fault => aborted machine.disk (greeting settings) notices fault
  | .ok collector =>
    let listed := list collector.walker machine.disk
    let run := collector.collectListed listed machine.disk machine.clock machine.parallel
    match run.outcome with
    | .error fault => aborted machine.disk (greeting settings) (notices ++ run.notices) fault
    | .ok results =>
      let content := results.format settings.outputFormat (style settings)
      match content >>= write machine settings.outputFile with
      | .error fault => aborted machine.disk (greeting settings) (notices ++ run.notices) fault
      | .ok (disk, output) =>
        { outcome := .ok ()
          output
          messages := greeting settings ++ farewell settings results
          disk
          notices := notices ++ run.notices }

def collect (list : Listing) (machine : Machine) (arguments : Arguments) : Execution :=
  match validatePaths machine.disk arguments with
  | .error fault => aborted machine.disk "" [] fault
  | .ok () =>
    let loaded := Settings.load machine.disk machine.environment Environment.defaultFamily arguments
    match loaded.outcome with
    | .error fault => aborted machine.disk "" loaded.notices fault
    | .ok settings => collectWith list machine settings loaded.notices

def existsText : String :=
  s!"Configuration file already exists at: {SettingsFile.defaultName}\n" ++
  "To overwrite it, delete the file first and run this command again.\n"

/-- What is told when a configuration file has been made. -/
def createdText : String :=
  s!"Created default configuration file at: {SettingsFile.defaultName}\n" ++
  "\nSettings you will most likely want to change:\n" ++
  "  - scan_path: directory holding one folder per component\n" ++
  "  - exclude_patterns: component folders to skip\n" ++
  "  - config_name: base name of each folder's readme config\n" ++
  "  - output_format: text, json, csv or markdown\n"

/-- Makes a configuration file unless there is one.  What is told of it is taken to be told. -/
def createFile (disk : Disk) : Execution :=
  if disk.exists? SettingsFile.defaultName then
    { outcome := .ok (), output := existsText, messages := "", disk, notices := [] }
  else
    match SettingsFile.create disk SettingsFile.defaultName with
    | .error fault => aborted disk "" [] fault
    | .ok disk => { outcome := .ok (), output := createdText, messages := "", disk, notices := [] }

/-- Executes a command with some way to list directories. -/
def executeOver (list : Listing) (command : Command) (machine : Machine) : Execution :=
  match command with
  | generate arguments => collect list machine arguments
  | init => createFile machine.disk

def execute : Command → Machine → Execution := executeOver Walker.folders

/-- Runs a command to its exit code.  A failure is told at the end. -/
def runOver (list : Listing) (command : Command) (machine : Machine) : Finished :=
  let execution := command.executeOver list machine
  let (exitCode, complaint) := match execution.outcome with
    | .ok () => (0, "")
    | .error fault =>
      (fault.severity.exitCode, s!"{fault.severity.display}: {fault.userMessage}\n")
  { exitCode
    output := execution.output
    messages := execution.messages ++ complaint
    disk := execution.disk
    notices := execution.notices }

def run : Command → Machine → Finished := runOver Walker.folders

end Command

end Showcase
