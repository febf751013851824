import Showcase.Disk.Tree
import Showcase.Glob
import Showcase.Settings.Basic
import Showcase.Fault

namespace Showcase

/-! # The folders of components

Each directory directly below the scanned one is the folder of a component, unless an
exclude pattern matches its name or its path.
-/

/-- How folders are listed. -/
structure Walker where
  root : String
  exclude : List Glob
  followLinks : Bool
deriving DecidableEq, Repr

/-- A folder that could not be looked at. -/
structure Unreadable where
  path : String
  fault : Fault

namespace Walker

def patterns : List String → Except Fault (List Glob)
  | [] => .ok []
  | pattern :: rest =>
    match Glob.parse pattern with
    | .error fault => .error (.globPattern fault.message)
    | .ok glob =>
      match patterns rest with
      | .error fault => .error fault
      | .ok globs => .ok (glob :: globs)

def ofSettings (settings : Settings) : Except Fault Walker :=
  match patterns settings.excludePatterns with
  | .ok exclude =>
    .ok { root := settings.scanPath, exclude, followLinks := settings.followLinks }
  | .error fault => .error fault

/-- Whether the folder at a path is left out.  Patterns are tried on its name as it is shown,
and on the path if it is a text. -/
def isExcluded (walker : Walker) (path : String) : Bool :=
  walker.exclude.any fun glob =>
    glob.isMatch (Path.shown ((Path.fileName? path).getD "")) ||
      (Path.text? path).any glob.isMatch

/-- What stands below the scanned directory under some name. -/
inductive Listed where
  | folder (path : String)
  | passed
  | failed (unreadable : Unreadable)

/-- The fault of an entry that could not be followed. -/
def traversal (path message : String) : Listed := .failed ⟨path, .traversal path message⟩

/-- A folder unless it is left out. -/
def folderUnlessExcluded (walker : Walker) (path : String) : Listed :=
  if walker.isExcluded path then .passed else .folder path

/-- What a link stands for.  A link to the scanned directory itself would never end.  To see
that it is another one, the directory behind a link is opened; if it may not be, this is told
of the scanned directory. -/
def followed (walker : Walker) (disk : Disk) (root : List String) (path : String) : Listed :=
  match disk.find path with
  | .error .permissionDenied => .failed ⟨path, .permissionDenied path⟩
  | .error fault =>
    traversal path s!"IO error for operation on {Path.shown path}: {fault.message}"
  | .ok (place, .directory _) =>
    if place = root then
      let ancestor := Path.shown walker.root
      traversal path
        s!"File system loop found: {Path.shown path} points to an ancestor {ancestor}"
    else walker.folderUnlessExcluded path
  | .ok (_, .closed) => .failed ⟨walker.root, .permissionDenied walker.root⟩
  | .ok _ => .passed

def list (walker : Walker) (disk : Disk) (root : List String) (entry : String × Node) : Listed :=
  let path := Path.join walker.root entry.1
  match entry.2 with
  | .directory _ | .closed => walker.folderUnlessExcluded path
  | .link _ => if walker.followLinks then walker.followed disk root path else .passed
  | .file _ => .passed

/-- Whether a name comes before another one or is the same, byte by byte. -/
def nameLe (a b : String × Node) : Bool := Path.bytes a.1 ≤ Path.bytes b.1

/-- The entries of the scanned directory in the order of their names. -/
def listings (walker : Walker) (disk : Disk) : Option (List Listed) :=
  match disk.find walker.root with
  | .ok (place, .directory entries) =>
    some ((entries.mergeSort nameLe).map (walker.list disk place))
  | .ok (_, .closed) => some [.failed ⟨walker.root, .permissionDenied walker.root⟩]
  | _ => none

def Listed.folder? : Listed → Option String
  | .folder path => some path
  | _ => none

def Listed.unreadable? : Listed → Option Unreadable
  | .failed unreadable => some unreadable
  | _ => none

/-- The folders in the order of their names, and what could not be looked at. -/
def folders (walker : Walker) (disk : Disk) : Except Fault (List String × List Unreadable) :=
  match walker.listings disk with
  | none => .error (.invalidPath walker.root)
  | some listed => .ok (listed.filterMap Listed.folder?, listed.filterMap Listed.unreadable?)

end Walker

end Showcase
