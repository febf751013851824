import Showcase.Disk.Path
import Showcase.Text.Decode

namespace Showcase

/-! # A disk

The files that a run can see form a tree.  A path is resolved from the current
directory; symbolic links are followed, a bounded number of them.  An operation
that changes the disk returns the new one.

Paths are those that a system takes: without a null byte, and shorter than its
longest path, for which there is no bound here.
-/

/-- What a file holds: a text, or bytes that are no text. -/
inductive Content where
  | text (s : String)
  | binary (bytes : List UInt8)
  /-- Bytes that may be neither read nor replaced. -/
  | sealed (bytes : List UInt8)
deriving DecidableEq, Repr

def Content.isSealed : Content → Bool
  | .sealed _ => true
  | _ => false

def Content.ofBytes (bytes : List UInt8) : Content :=
  match Text.decode bytes with
  | .ok s => .text s
  | .error _ => .binary bytes

/-- A node of the tree. -/
inductive Node where
  | file (content : Content)
  | directory (entries : List (String × Node))
  /-- A directory that may not be looked into. -/
  | closed
  /-- A symbolic link. -/
  | link (target : String)
deriving Inhabited

/-- A tree and the directory from which relative paths start. -/
structure Disk where
  root : Node
  current : List String

/-- Why an operation on the disk fails. -/
inductive DiskFault where
  | missing
  | exists
  | notDirectory
  | isDirectory
  | nameTooLong
  | tooManyLinks
  | permissionDenied
  | notText
deriving DecidableEq, Repr

def DiskFault.message : DiskFault → String
  | missing => "No such file or directory (os error 2)"
  | «exists» => "File exists (os error 17)"
  | notDirectory => "Not a directory (os error 20)"
  | isDirectory => "Is a directory (os error 21)"
  | nameTooLong => "File name too long (os error 36)"
  | tooManyLinks => "Too many levels of symbolic links (os error 40)"
  | permissionDenied => "Permission denied (os error 13)"
  | notText => "stream did not contain valid UTF-8"

namespace Node

def isDirectory : Node → Bool
  | directory _ | closed => true
  | _ => false

def isFile : Node → Bool
  | file _ => true
  | _ => false

def child? (node : Node) (name : String) : Option Node :=
  match node with
  | directory entries => entries.lookup name
  | _ => none

/-- The node at a place, without following links. -/
def at? : Node → List String → Option Node
  | node, [] => some node
  | node, name :: rest => (node.child? name).bind fun child => at? child rest

/-- Entries in which `name` has the node `new`. -/
def setEntry (name : String) (new : Node) : List (String × Node) → List (String × Node)
  | [] => [(name, new)]
  | (k, v) :: rest => if k = name then (k, new) :: rest else (k, v) :: setEntry name new rest

/-- The tree with `new` at a place whose directory exists. -/
def put (node : Node) (place : List String) (new : Node) : Node :=
  match place with
  | [] => new
  | name :: rest =>
    match node with
    | directory entries =>
      match entries.lookup name with
      | some child => directory (setEntry name (put child rest new) entries)
      | none => if rest.isEmpty then directory (setEntry name new entries) else directory entries
    | node => node

/-- The tree with `new` at a place.  Directories on the way are made, and an empty
directory leaves one that is there as it is. -/
def plant (new : Node) : List String → Node → Node
  | [], directory entries =>
    match new with
    | directory [] => directory entries
    | new => new
  | [], _ => new
  | name :: rest, directory entries =>
    directory (setEntry name (plant new rest ((entries.lookup name).getD (directory []))) entries)
  | name :: rest, _ => directory [(name, plant new rest (directory []))]

mutual

/-- The files with their places, links not followed. -/
def files (place : List String) : Node → List (List String × Content)
  | file content => [(place, content)]
  | directory entries => filesOf place entries
  | _ => []

def filesOf (place : List String) : List (String × Node) → List (List String × Content)
  | [] => []
  | (name, node) :: rest => node.files (place ++ [name]) ++ filesOf place rest

end

end Node

/-- Where a path leads: to a node, or to a name that is free in a directory.  `slash`
tells whether the free name was written with a slash after it. -/
inductive Goal where
  | node (place : List String) (node : Node)
  | vacant (place : List String) (slash : Bool)

namespace Disk

/-- The longest name, in bytes. -/
def longestName : Nat := 255

/-- How many links are followed on the way along one path. -/
def linkLimit : Nat := 40

/-- Goes along segments from a directory.  `jump` goes on behind a link; a link in the
last place is followed only with `follow`. -/
def along (disk : Disk) (follow : Bool) (jump : List String → List String → Except DiskFault Goal)
    (place : List String) : List String → Except DiskFault Goal
  | [] =>
    match disk.root.at? place with
    | some node => .ok (.node place node)
    | none => .error .missing
  | segment :: rest =>
    match disk.root.at? place with
    | some (.directory entries) =>
      if Path.isIdle segment then disk.along follow jump place rest
      else if segment = ".." then disk.along follow jump place.dropLast rest
      else if longestName < Path.size segment then .error .nameTooLong
      else
        match entries.lookup segment with
        | none =>
          if rest.all (· = "") then .ok (.vacant (place ++ [segment]) (!rest.isEmpty))
          else .error .missing
        | some (.link target) =>
          if rest.isEmpty && !follow then .ok (.node (place ++ [segment]) (.link target))
          else if target = "" then .error .missing
          else
            jump (if Path.isAbsolute target then [] else place) (Path.segments target ++ rest)
        | some _ => disk.along follow jump (place ++ [segment]) rest
    | some .closed => .error .permissionDenied
    | some _ => .error .notDirectory
    | none => .error .missing

/-- Goes along segments over at most `links` links. -/
def reach (disk : Disk) (follow : Bool) : Nat → List String → List String → Except DiskFault Goal
  | 0 => disk.along follow fun _ _ => .error .tooManyLinks
  | links + 1 => disk.along follow (reach disk follow links)

/-- Where a path leads. -/
def goal (disk : Disk) (follow : Bool) (path : String) : Except DiskFault Goal :=
  if path = "" then .error .missing
  else disk.reach follow linkLimit (if Path.isAbsolute path then [] else disk.current)
    (Path.segments path)

/-- The place and the node that a path leads to, links followed. -/
def find (disk : Disk) (path : String) : Except DiskFault (List String × Node) :=
  match disk.goal true path with
  | .ok (.node place node) => .ok (place, node)
  | .ok (.vacant _ _) => .error .missing
  | .error fault => .error fault

/-- The node that a path leads to, if there is one. -/
def node? (disk : Disk) (path : String) : Option Node :=
  match disk.find path with
  | .ok (_, node) => some node
  | .error _ => none

def exists? (disk : Disk) (path : String) : Bool := (disk.node? path).isSome

def isFile (disk : Disk) (path : String) : Bool := (disk.node? path).any Node.isFile

def isDirectory (disk : Disk) (path : String) : Bool := (disk.node? path).any Node.isDirectory

def readText (disk : Disk) (path : String) : Except DiskFault String :=
  match disk.find path with
  | .ok (_, .file (.text s)) => .ok s
  | .ok (_, .file (.binary _)) => .error .notText
  | .ok (_, .file (.sealed _)) => .error .permissionDenied
  | .ok (_, .directory _) | .ok (_, .closed) => .error .isDirectory
  | .ok (_, .link _) => .error .missing
  | .error fault => .error fault

/-- Why a file is not opened for writing.  A slash after its name asks for a directory. -/
def refusal (disk : Disk) (path : String) (fault : DiskFault) : DiskFault :=
  let stem := String.ofList (path.toList.reverse.dropWhile (· = '/')).reverse
  if path.endsWith "/" ∧ disk.isFile stem then .isDirectory else fault

/-- Writes a text to the file at a path, which is created or replaced. -/
def writeText (disk : Disk) (path text : String) : Except DiskFault Disk :=
  let write (place : List String) : Disk :=
    { disk with root := disk.root.put place (.file (.text text)) }
  match disk.goal true path with
  | .ok (.node place (.file content)) =>
    if content.isSealed then .error .permissionDenied else .ok (write place)
  | .ok (.node _ _) => .error .isDirectory
  | .ok (.vacant place slash) => if slash then .error .isDirectory else .ok (write place)
  | .error fault => .error (disk.refusal path fault)

def makeDirectory (disk : Disk) (path : String) : Except DiskFault Disk :=
  match disk.goal false path with
  | .ok (.node _ _) => .error .exists
  | .ok (.vacant place _) => .ok { disk with root := disk.root.put place (.directory []) }
  | .error fault => .error fault

/-- Makes a directory unless there is one. -/
def ensureDirectory (disk : Disk) (path : String) : Except DiskFault Disk :=
  match disk.makeDirectory path with
  | .ok disk => .ok disk
  | .error fault => if disk.isDirectory path then .ok disk else .error fault

/-- Makes a directory and those above it, at most `fuel` of them. -/
def makeDirectories (disk : Disk) : Nat → String → Except DiskFault Disk
  | 0, _ => .ok disk
  | fuel + 1, path =>
    if path = "" then .ok disk
    else
      match disk.ensureDirectory path with
      | .ok disk => .ok disk
      | .error .missing =>
        match Path.parent? path with
        | none => .error .missing
        | some parent =>
          match disk.makeDirectories fuel parent with
          | .ok disk => disk.ensureDirectory path
          | .error fault => .error fault
      | .error fault => .error fault

/-- The files that are in `after` and were not in `before` with the same content. -/
def changes (before after : Disk) : List (List String × Content) :=
  (after.root.files []).filter fun (place, content) =>
    match before.root.at? place with
    | some (.file old) => old ≠ content
    | _ => true

end Disk

end Showcase
