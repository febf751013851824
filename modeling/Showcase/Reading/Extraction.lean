import Showcase.Reading.Export
import Showcase.Reading.Entries
import Showcase.Script.Parser
import Showcase.Text.Location
import Showcase.Fault

namespace Showcase

open Script

/-! # Extraction

What a description says about its component, as source text and static values.
-/

/-- The source text of a component, with how and where it was found. -/
structure Snippet where
  code : String
  source : ComponentSource
  location : Location
deriving DecidableEq, Repr, Inhabited

/-- Everything that a description says. -/
structure Extracted where
  component : Option Snippet
  props : Option (List RawEntry)
  config : Json

/-- A description: a source text with its language and the path by which it is named. -/
structure Source where
  path : String
  language : Language
  code : String

def Language.dialect : Language → Dialect
  | .js => { typed := false, markup := false }
  | .ts => { typed := true, markup := false }
  | .tsx => { typed := true, markup := true }

namespace Source

def parse (source : Source) : Except Fault Program :=
  match Program.parse source.language.dialect source.code with
  | .ok program => .ok program
  | .error problems => .error (.unparsed source.path (problems.map Diagnostic.message))

/-- The object that a program exports in the style of its language. -/
def findExport (source : Source) (program : Program) : ExportSearch :=
  program.findExport (.forLanguage source.language) (some (.ofProgram program))

def exported (source : Source) : Except Fault (ObjectLiteral × Scope) := do
  let program ← source.parse
  match source.findExport program with
  | .definitive object => return (object, .ofProgram program)
  | .notDefinitive candidates => throw (.ambiguousExport source.path candidates)

/-- The snippet of a component that was found. -/
def snippet (source : Source) (found : ComponentMatch) : Snippet :=
  { code := found.span.text source.code
    source := found.source
    location := .ofOffset source.code source.path found.span.start }

/-- The notices about components that are imported. -/
def importNotices (source : Source) (scan : RoleScan) : List Notice :=
  scan.unresolved.filterMap fun u =>
    u.binding.bind fun b =>
      if b.kind = .imported then
        some (.importedComponent source.path u.name (b.module.getD ""))
      else none

def component (source : Source) : Except Fault (Option Snippet × List Notice) := do
  let (object, scope) ← source.exported
  let scan := object.scan (some scope)
  return (scan.component.map source.snippet, source.importNotices scan)

/-- The text of the props, or of their members `sub`. -/
def props (source : Source) (sub : Option String) : Except Fault (Option PropsText) := do
  let (object, scope) ← source.exported
  return (object.scan (some scope)).props.map (·.text source.code (some scope) sub)

def entries (source : Source) : Except Fault (Option (List RawEntry)) := do
  let (object, scope) ← source.exported
  return (object.scan (some scope)).props.map (·.entries source.code (some scope))

/-- The static members of the exported object.  A description may export nothing. -/
def staticConfig (source : Source) : Except Fault (Option Json) := do
  let program ← source.parse
  return (source.findExport program).object?.map (·.staticValue (some (.ofProgram program)))

/-- Everything at once. -/
def extract (source : Source) : Except Fault (Extracted × List Notice) := do
  let (object, scope) ← source.exported
  let scan := object.scan (some scope)
  return ({
      component := scan.component.map source.snippet
      props := scan.props.map (·.entries source.code (some scope))
      config := object.staticValue (some scope) },
    source.importNotices scan)

end Source

end Showcase
