import Showcase.Folder.Candidates
import Showcase.Folder.Options

namespace Showcase

/-! # The folder of a component

What the description in a folder says about its component, with its options read.
-/

/-- An entry of the props. -/
structure PropsEntry where
  index : Nat
  code : String
  /-- The code to show instead of `code`. -/
  readmeCode : Option String
  options : EntryOptions
deriving Inhabited

/-- The code of an entry that is shown. -/
def PropsEntry.displayCode (entry : PropsEntry) : String := entry.readmeCode.getD entry.code

/-- A component as its folder describes it. -/
structure FolderOptions where
  name : String
  folder : String
  configPath : String
  language : Language
  component : Snippet
  props : List PropsEntry
  metadata : FolderMeta
deriving Inhabited

/-- The title of a component: the given one, or the name of its folder. -/
def FolderOptions.title (folder : FolderOptions) : String :=
  folder.metadata.title.getD folder.name

/-- How descriptions are looked for. -/
structure Loader where
  configName : String
  untypedOnly : Bool
deriving DecidableEq, Repr

namespace Loader

/-- Reads options of a role; absent ones are empty. -/
def options (role : Role) (path : String) (read : Json → Except ShapeFault ρ) (empty : ρ) :
    Option Json → Except Fault ρ
  | none => .ok empty
  | some v =>
    match read v with
    | .ok options => .ok options
    | .error fault => .error (.invalidOptions role path fault.message)

/-- An entry of the props, whose code has to be known. -/
def entry (path : String) (index : Nat) (raw : RawEntry) : Except Fault PropsEntry :=
  match raw.code with
  | none => .error (.missingMember .props path)
  | some code =>
    match options .props path EntryOptions.ofJson .empty raw.options with
    | .ok options => .ok { index, code, readmeCode := raw.readmeCode, options }
    | .error fault => .error fault

/-- The entries of the props from `index` on. -/
def entriesFrom (path : String) (index : Nat) : List RawEntry → Except Fault (List PropsEntry)
  | [] => .ok []
  | raw :: rest =>
    match entry path index raw with
    | .error fault => .error fault
    | .ok e =>
      match entriesFrom path (index + 1) rest with
      | .error fault => .error fault
      | .ok es => .ok (e :: es)

/-- The component that a description gives for `folder`. -/
def assemble (folder : String) (source : Source) (extracted : Extracted) :
    Except Fault FolderOptions :=
  match extracted.component with
  | none => .error (.missingMember .component source.path)
  | some component => do
    let props ← entriesFrom source.path 0 (extracted.props.getD [])
    let metadata ← options .config source.path FolderMeta.ofJson .empty (some extracted.config)
    return {
      name := Path.label folder
      folder
      configPath := source.path
      language := source.language
      component
      props
      metadata }

/-- The component of a folder whose description was found. -/
def ofSource (folder : String) (source : Source) : Loaded FolderOptions :=
  match source.extract with
  | .error fault => ⟨.error (fault.inRole .component source.path), []⟩
  | .ok (extracted, notices) => ⟨assemble folder source extracted, notices⟩

def load (loader : Loader) (disk : Disk) (folder : String) : Loaded FolderOptions :=
  match disk.source (Path.join folder loader.configName) loader.untypedOnly with
  | .error fault => ⟨.error fault, []⟩
  | .ok source => ofSource folder source

/-- The options in a description of the directory of all components. -/
def globalOfSource (source : Source) : Except Fault GlobalOptions :=
  match source.staticConfig with
  | .error fault => .error (fault.inRole .config source.path)
  | .ok value => options .config source.path GlobalOptions.ofJson .empty value

/-- Loads the options of the directory of all components, if it has a description. -/
def loadGlobal (loader : Loader) (disk : Disk) (root : String) :
    Except Fault (Option GlobalOptions) :=
  match disk.source? (Path.join root loader.configName) loader.untypedOnly with
  | .error fault => .error fault
  | .ok none => .ok none
  | .ok (some source) =>
    match globalOfSource source with
    | .ok options => .ok (some options)
    | .error fault => .error fault

end Loader

end Showcase
