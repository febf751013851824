import Showcase.Disk.Tree
import Showcase.Reading.Extraction

namespace Showcase

/-! # Finding a description

A description is named without its extension.  The languages are tried in order, and the
first file that exists is read.
-/

namespace Language

def path (base : String) (language : Language) : String := base ++ "." ++ language.extension

/-- The paths at which a description is looked for, in order. -/
def candidatePaths (base : String) (untypedOnly : Bool) : List (Language × String) :=
  (candidates untypedOnly).map fun language => (language, language.path base)

end Language

namespace Disk

/-- The first of several files that exists, read as a description. -/
def firstSource (disk : Disk) : List (Language × String) → Except Fault (Option Source)
  | [] => .ok none
  | (language, path) :: rest =>
    if disk.isFile path then
      match disk.readText path with
      | .ok code => .ok (some { path, language, code })
      | .error fault => .error (.sourceRead path fault.message)
    else disk.firstSource rest

/-- The description `base`, if there is one. -/
def source? (disk : Disk) (base : String) (untypedOnly : Bool) : Except Fault (Option Source) :=
  disk.firstSource (Language.candidatePaths base untypedOnly)

/-- The description `base`, which has to exist. -/
def source (disk : Disk) (base : String) (untypedOnly : Bool) : Except Fault Source :=
  match disk.source? base untypedOnly with
  | .ok (some source) => .ok source
  | .ok none => .error (.notFound ((Language.candidatePaths base untypedOnly).map (·.2)))
  | .error fault => .error fault

end Disk

end Showcase
