import Showcase.Collection.Results
import Showcase.Report.Duration

namespace Showcase.Report

open Text

/-! # Results as a text for people

With colours, some parts stand between escape sequences that set and reset a style;
without, the text is the same apart from these.
-/

/-- A style: codes of the terminal. -/
inductive Style where
  | heading
  | faint
  | good
  | alarm
  | marked
  | warning
  | error
  | critical
deriving DecidableEq, Repr

def Style.codes : Style → String
  | heading => "1;34"
  | faint => "2"
  | good => "32"
  | alarm => "1;33"
  | marked => "36"
  | warning => "33"
  | error => "31"
  | critical => "1;35"

/-- The character that begins an escape sequence. -/
def escapeCharacter : Char := Char.ofNat 27

def escapeSequence (codes : String) : String := String.ofList [escapeCharacter, '['] ++ codes ++ "m"

/-- A text in a style, if there are colours. -/
def paint (colors : Bool) (style : Style) (text : String) : String :=
  if colors then escapeSequence style.codes ++ text ++ escapeSequence "0" else text

/-- The lines of a text, indented. -/
def indented (width : Nat) (text : String) : String :=
  String.ofList ((linesOf text.toList).flatMap fun line =>
    List.replicate width ' ' ++ line ++ ['\n'])

def entryLabel (entry : PropsEntry) : String :=
  match entry.options.alt with
  | some alt => s!"  Props #{entry.index} ({alt}):\n"
  | none => s!"  Props #{entry.index}:\n"

def componentDetails (colors : Bool) (component : FolderOptions) : String :=
  (match component.metadata.description with
    | some description => s!"  Description: {description}\n"
    | none => "") ++
  "\n  Component source:\n" ++ indented 4 component.component.code ++
  String.join (component.props.map fun entry =>
    paint colors .marked (entryLabel entry) ++ indented 4 entry.displayCode)

def componentText (colors verbose : Bool) (component : FolderOptions) : String :=
  paint colors .heading component.title ++ " " ++
    paint colors .faint ("(" ++ component.language.extension ++ ")") ++ "\n" ++
  "  Config: " ++ paint colors .faint (Path.shown component.configPath) ++ "\n" ++
  "  Component: " ++ component.component.location.display ++ "\n" ++
  s!"  Props entries: {component.props.length}\n" ++
  (if verbose then componentDetails colors component else "") ++ "\n"

def severityStyle : Severity → Style
  | .warning => .warning
  | .error => .error
  | .critical => .critical

def errorLine (colors : Bool) (error : FolderError) : String :=
  "  [" ++ paint colors (severityStyle error.severity) error.severity.tag ++ "] " ++
    Path.shown error.folder ++ ": " ++ error.message ++ "\n"

def errorText (colors : Bool) (results : Results) : String :=
  if results.summary.failedFolders = 0 then ""
  else
    "\n" ++ paint colors .alarm s!"Failed folders: {results.summary.failedFolders}" ++ "\n" ++
      String.join (results.errors.map (errorLine colors))

def text (colors verbose : Bool) (results : Results) : String :=
  let summary := results.summary
  paint colors .heading "Component Readme Summary" ++ "\n\n" ++
  (match results.title? with
    | some title => s!"Title: {title}\n"
    | none => "") ++
  s!"Root: {Path.shown results.root}\n" ++
  s!"Component folders: {summary.totalFolders}\n" ++
  paint colors .good s!"Components loaded: {summary.components}" ++ "\n" ++
  s!"Props entries: {summary.propsEntries}\n" ++
  s!"Scan duration: {duration summary.duration}\n" ++
  errorText colors results ++
  (if results.components.isEmpty then ""
    else "\nComponents:\n\n" ++ String.join (results.components.map (componentText colors verbose)))

/-- Results in brief: the counts and the failures. -/
def brief (results : Results) : String :=
  let summary := results.summary
  s!"Components: {summary.components}, props entries: {summary.propsEntries}, failed: {summary.failedFolders}\n" ++
    String.join (results.errors.map fun error =>
      Path.shown error.folder ++ ": " ++ error.message ++ "\n")

end Showcase.Report
