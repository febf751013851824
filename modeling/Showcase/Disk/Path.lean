import Showcase.Disk.Bytes

namespace Showcase

/-! # Paths

A path is kept as it was written.  Its segments are what stands between slashes; an
empty segment and a single point change nothing, except for a point at the very
beginning of a relative path.
-/

namespace Path

def segments (path : String) : List String := (path.toList.splitOn '/').map String.ofList

def isAbsolute (path : String) : Bool := path.startsWith "/"

/-- Whether a segment changes nothing. -/
def isIdle (segment : String) : Bool := segment = "" || segment = "."

/-- Puts `name` below `base`. -/
def join (base name : String) : String :=
  if isAbsolute name then name
  else if base = "" ∨ base.endsWith "/" then base ++ name
  else base ++ "/" ++ name

/-- Segments without those at the end that change nothing. -/
def trimIdle (segments : List String) : List String :=
  (segments.reverse.dropWhile isIdle).reverse

/-- What stands at the beginning of a path: nothing, the root, or a point; and the
segments after it. -/
def split (path : String) : Option String × List String :=
  match segments path with
  | "" :: rest => if path = "" then (none, []) else (some "", rest)
  | "." :: rest => (some ".", rest)
  | all => (none, all)

/-- The last name of a path, if it has one. -/
def fileName? (path : String) : Option String :=
  match (trimIdle (split path).2).getLast? with
  | some ".." => none
  | name => name

def build (start : Option String) (segments : List String) : String :=
  match start, segments with
  | none, segments => "/".intercalate segments
  | some "", [] => "/"
  | some start, [] => start
  | some start, segments => start ++ "/" ++ "/".intercalate segments

/-- The path without its last component. -/
def parent? (path : String) : Option String :=
  let (start, rest) := split path
  match trimIdle rest, start with
  | [], some "." => some ""
  | [], _ => none
  | rest, start => some (build start (trimIdle rest.dropLast))

/-- What follows the last point of a name, unless the name begins with it. -/
def extension? (path : String) : Option String :=
  (fileName? path).bind fun name =>
    let cs := name.toList.reverse
    let after := cs.takeWhile (· ≠ '.')
    match cs.dropWhile (· ≠ '.') with
    | _ :: _ :: _ => some (String.ofList after.reverse)
    | _ => none

/-- What is shown of the last name of a path, or of the path itself if it has none. -/
def label (path : String) : String := shown ((fileName? path).getD path)

end Path

end Showcase
