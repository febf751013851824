import Showcase.Json.Value
import Showcase.Text.Quoted

namespace Showcase

/-! # Options

A description may carry options beside the code: for one entry of its props, for the
whole component, and for the directory that holds all components.  Options are read
from a static value.  Members of other names are passed over, and a record may also
be given as an array of its members in their order.
-/

/-- Why a static value does not have the shape of a record. -/
inductive ShapeFault where
  | unexpected (found : Json) (wanted : String)
  | tooMany (count : Nat)
deriving Repr, Inhabited

def Json.describe : Json → String
  | .null => "null"
  | .bool b => "boolean \x60" ++ (if b then "true" else "false") ++ "\x60"
  | .number (.int n) => "integer \x60" ++ toString n ++ "\x60"
  | .number n => "floating point \x60" ++ writeNumber n ++ "\x60"
  | .string s => "string " ++ Text.quoted s
  | .array _ => "sequence"
  | .object _ => "map"

def ShapeFault.message : ShapeFault → String
  | unexpected found wanted => s!"invalid type: {found.describe}, expected {wanted}"
  | tooMany count => s!"invalid length {count}, expected fewer elements in array"

namespace Record

/-- How a member of a record is taken over. -/
abbrev Setter (ρ : Type) := Json → ρ → Except ShapeFault ρ

/-- A text, or nothing for `null`. -/
def text? : Json → Except ShapeFault (Option String)
  | .null => .ok none
  | .string s => .ok (some s)
  | v => .error (.unexpected v "a string")

/-- Any value, or nothing for `null`. -/
def any? : Json → Option Json
  | .null => none
  | v => some v

/-- Takes over the members of an object, in their order. -/
def ofMembers (fields : List (String × Setter ρ)) (record : ρ) :
    List (String × Json) → Except ShapeFault ρ
  | [] => .ok record
  | (key, v) :: rest =>
    match fields.lookup key with
    | none => ofMembers fields record rest
    | some set =>
      match set v record with
      | .error fault => .error fault
      | .ok record => ofMembers fields record rest

/-- Takes over values in the order of the fields, as far as both reach. -/
def ofItems (fields : List (String × Setter ρ)) (record : ρ) :
    List Json → Except ShapeFault ρ
  | [] => .ok record
  | v :: rest =>
    match fields with
    | [] => .ok record
    | (_, set) :: fields =>
      match set v record with
      | .error fault => .error fault
      | .ok record => ofItems fields record rest

def ofJson (name : String) (fields : List (String × Setter ρ)) (empty : ρ) :
    Json → Except ShapeFault ρ
  | .object members => ofMembers fields empty members
  | .array items =>
    match ofItems fields empty items with
    | .error fault => .error fault
    | .ok record => if fields.length < items.length then .error (.tooMany items.length) else .ok record
  | v => .error (.unexpected v ("struct " ++ name))

end Record

/-- The options of an entry. -/
structure EntryOptions where
  alt : Option String
  readme : Option String
  screenshot : Option Json
deriving Inhabited

namespace EntryOptions

def empty : EntryOptions := ⟨none, none, none⟩

def fields : List (String × Record.Setter EntryOptions) :=
  [("alt", fun v r => (Record.text? v).map fun t => { r with alt := t }),
   ("readme", fun v r => (Record.text? v).map fun t => { r with readme := t }),
   ("screenshot", fun v r => .ok { r with screenshot := Record.any? v })]

def ofJson : Json → Except ShapeFault EntryOptions := Record.ofJson "EntryOptions" fields empty

end EntryOptions

/-- The options of a component. -/
structure FolderMeta where
  title : Option String
  description : Option String
  readme : Option String
  screenshot : Option Json
deriving Inhabited

namespace FolderMeta

def empty : FolderMeta := ⟨none, none, none, none⟩

def fields : List (String × Record.Setter FolderMeta) :=
  [("title", fun v r => (Record.text? v).map fun t => { r with title := t }),
   ("description", fun v r => (Record.text? v).map fun t => { r with description := t }),
   ("readme", fun v r => (Record.text? v).map fun t => { r with readme := t }),
   ("screenshot", fun v r => .ok { r with screenshot := Record.any? v })]

def ofJson : Json → Except ShapeFault FolderMeta := Record.ofJson "FolderMeta" fields empty

end FolderMeta

/-- The options of the directory of all components. -/
structure GlobalOptions where
  title : Option String
  description : Option String
  screenshot : Option Json
deriving Inhabited

namespace GlobalOptions

def empty : GlobalOptions := ⟨none, none, none⟩

def fields : List (String × Record.Setter GlobalOptions) :=
  [("title", fun v r => (Record.text? v).map fun t => { r with title := t }),
   ("description", fun v r => (Record.text? v).map fun t => { r with description := t }),
   ("screenshot", fun v r => .ok { r with screenshot := Record.any? v })]

def ofJson : Json → Except ShapeFault GlobalOptions := Record.ofJson "GlobalOptions" fields empty

end GlobalOptions

end Showcase
