import Showcase.Disk.Bytes
import Showcase.Settings.Basic

namespace Showcase

/-! # Arguments of the command line

A word with two hyphens is a long name, a word with one is a cluster of short ones.  A
switch stands for itself.  An option takes a value, which is attached to its name or is
the next word.  The value of an option is looked at only when the next name has been
recognised, so that an unknown name counts first.
-/

/-- Names that stand for themselves. -/
inductive Switch where
  | jsOnly
  | quiet
  | verbose
  | noParallel
  | failFast
  | followLinks
  | noColors
  | noProgress
  /-- Asks for a configuration file to begin with. -/
  | init
  | help
  | version
deriving DecidableEq, Repr

/-- Names that take a value. -/
inductive ValueOption where
  | path
  | exclude
  | configName
  | output
  | outputFile
  | config
deriving DecidableEq, Repr

/-- What a name stands for. -/
inductive ArgumentName where
  | switch (switch : Switch)
  | option (option : ValueOption)
deriving DecidableEq, Repr

namespace ArgumentName

def ofLong? : String → Option ArgumentName
  | "path" => some (.option .path)
  | "exclude" => some (.option .exclude)
  | "config-name" => some (.option .configName)
  | "js-only" => some (.switch .jsOnly)
  | "output" => some (.option .output)
  | "output-file" => some (.option .outputFile)
  | "quiet" => some (.switch .quiet)
  | "verbose" => some (.switch .verbose)
  | "config" => some (.option .config)
  | "no-parallel" => some (.switch .noParallel)
  | "fail-fast" => some (.switch .failFast)
  | "follow-links" => some (.switch .followLinks)
  | "no-colors" => some (.switch .noColors)
  | "no-progress" => some (.switch .noProgress)
  | "init" => some (.switch .init)
  | "help" => some (.switch .help)
  | "version" => some (.switch .version)
  | _ => none

def ofShort? : Char → Option ArgumentName
  | 'p' => some (.option .path)
  | 'e' => some (.option .exclude)
  | 'o' => some (.option .output)
  | 'q' => some (.switch .quiet)
  | 'v' => some (.switch .verbose)
  | 'c' => some (.option .config)
  | 'h' => some (.switch .help)
  | 'V' => some (.switch .version)
  | _ => none

end ArgumentName

/-- Why arguments are not taken.  Asking for help or for the version is among these,
because nothing else is done then. -/
inductive UsageFault where
  | unknownArgument
  | invalidValue
  /-- A value that has to be a text is none. -/
  | invalidUtf8
  | argumentConflict
  | tooManyValues
  | displayHelp
  | displayVersion
deriving DecidableEq, Repr

/-- The arguments of the command line.  The words are kept like paths; patterns and the name of
the descriptions have to be texts. -/
structure Arguments where
  path : Option String
  exclude : List String
  configName : Option String
  output : Option OutputFormat
  outputFile : Option String
  config : Option String
  switches : List Switch
deriving DecidableEq, Repr, Inhabited

namespace Arguments

def empty : Arguments := ⟨none, [], none, none, none, none, []⟩

/-- The value of an option that may be given once. -/
def once (old : Option α) (value : Except UsageFault α) (set : α → Arguments) :
    Except UsageFault Arguments :=
  if old.isSome then .error .argumentConflict
  else
    match value with
    | .ok v => .ok (set v)
    | .error fault => .error fault

/-- A value that names a file. -/
def pathValue (value : String) : Except UsageFault String :=
  if value = "" then .error .invalidValue else .ok value

/-- A value that has to be a text. -/
def textValue (value : String) : Except UsageFault String :=
  match Path.text? value with
  | some text => .ok text
  | none => .error .invalidUtf8

/-- A value that names a format. -/
def formatValue (value : String) : Except UsageFault OutputFormat :=
  match OutputFormat.ofNameOrAlias? value with
  | some format => .ok format
  | none => .error .invalidValue

def assign (arguments : Arguments) (option : ValueOption) (value : String) :
    Except UsageFault Arguments :=
  match option with
  | .path => once arguments.path (pathValue value) fun v => { arguments with path := some v }
  | .exclude =>
    (textValue value).map fun v => { arguments with exclude := arguments.exclude ++ [v] }
  | .configName =>
    once arguments.configName (textValue value) fun v => { arguments with configName := some v }
  | .output =>
    once arguments.output (formatValue value) fun v => { arguments with output := some v }
  | .outputFile =>
    once arguments.outputFile (pathValue value) fun v => { arguments with outputFile := some v }
  | .config => once arguments.config (pathValue value) fun v => { arguments with config := some v }

def flip (arguments : Arguments) (switch : Switch) : Except UsageFault Arguments :=
  match switch with
  | .help => .error .displayHelp
  | .version => .error .displayVersion
  | switch =>
    if switch ∈ arguments.switches then .error .argumentConflict
    else .ok { arguments with switches := arguments.switches ++ [switch] }

/-- Arguments that are being read: those taken over, and the last option, whose value may
not have been seen yet. -/
structure Partway where
  taken : Arguments
  open? : Option (ValueOption × Option String)

namespace Partway

/-- Takes over the last option. -/
def settle (state : Partway) : Except UsageFault Arguments :=
  match state.open? with
  | none => .ok state.taken
  | some (_, none) => .error .invalidValue
  | some (option, some value) => state.taken.assign option value

def switch (state : Partway) (switch : Switch) : Except UsageFault Partway := do
  return ⟨← (← state.settle).flip switch, none⟩

/-- Reads an option whose value is the next word. -/
def option (state : Partway) (option : ValueOption) : Except UsageFault Partway := do
  return ⟨← state.settle, some (option, none)⟩

def attached (state : Partway) (option : ValueOption) (value : List Char) :
    Except UsageFault Partway := do
  return ⟨← (← state.settle).assign option (String.ofList value), none⟩

/-- Reads a long name, with what is attached to it after an equals sign. -/
def long (state : Partway) (cs : List Char) : Except UsageFault Partway :=
  let name := cs.takeWhile (· ≠ '=')
  match ArgumentName.ofLong? (String.ofList name), cs.drop name.length with
  | none, _ => .error .unknownArgument
  | some (.switch s), [] => state.switch s
  | some (.switch _), _ => .error .tooManyValues
  | some (.option o), [] => state.option o
  | some (.option o), _ :: value => state.attached o value

/-- Reads a cluster of short names.  What follows an option is its value. -/
def short (state : Partway) : List Char → Except UsageFault Partway
  | [] => .ok state
  | c :: rest =>
    match ArgumentName.ofShort? c with
    | none => .error .unknownArgument
    | some (.switch s) =>
      match state.switch s with
      | .ok state => state.short rest
      | .error fault => .error fault
    | some (.option o) =>
      match rest with
      | [] => state.option o
      | '=' :: value => state.attached o value
      | value => state.attached o value

/-- Reads a word without hyphens, which has to be the value of the last option. -/
def plain (state : Partway) (word : String) : Except UsageFault Partway :=
  match state.open? with
  | some (option, none) => .ok { state with open? := some (option, some word) }
  | _ => .error .unknownArgument

def word (state : Partway) (word : String) : Except UsageFault Partway :=
  match word.toList with
  | '-' :: '-' :: name => state.long name
  | '-' :: c :: rest => state.short (c :: rest)
  | _ => state.plain word

/-- Reads words to the end.  After two hyphens alone no name can follow, and nothing else
is expected. -/
def words (state : Partway) : List String → Except UsageFault Arguments
  | [] => state.settle
  | word :: rest =>
    if word = "--" then
      if rest.isEmpty then state.settle else .error .unknownArgument
    else
      match state.word word with
      | .ok state => state.words rest
      | .error fault => .error fault

end Partway

def parse (words : List String) : Except UsageFault Arguments :=
  Partway.words ⟨empty, none⟩ words

/-- What a switch says about a setting, if it is given. -/
def given (arguments : Arguments) (switch : Switch) (value : Bool) : Option Bool :=
  if switch ∈ arguments.switches then some value else none

/-- The layer that arguments make.  A switch only ever leads away from the default. -/
def layer (arguments : Arguments) : PartialSettings :=
  { scanPath := arguments.path
    excludePatterns := if arguments.exclude.isEmpty then none else some arguments.exclude
    configName := arguments.configName.map Path.ofText
    jsOnly := arguments.given .jsOnly true
    outputFormat := arguments.output
    outputFile := arguments.outputFile
    parallel := arguments.given .noParallel false
    failFast := arguments.given .failFast true
    quiet := arguments.given .quiet true
    verbose := arguments.given .verbose true
    useColors := arguments.given .noColors false
    showProgress := arguments.given .noProgress false
    followLinks := arguments.given .followLinks true }

end Arguments

end Showcase
