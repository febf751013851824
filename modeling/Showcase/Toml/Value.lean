namespace Showcase

/-! # Configuration values

A configuration file is a table of values.  Numbers and dates are kept only as far as
they matter here: what they are, and whether a number is in range.
-/

/-- How a table came about, which decides in what ways it may still grow. -/
inductive TableOrigin where
  /-- It has a header of its own, or is the file itself. -/
  | header
  /-- It was named on the way to another header. -/
  | passage
  /-- It was named on the way of a dotted key. -/
  | dotted
  /-- It stands between braces. -/
  | inlined
deriving DecidableEq, Repr, Inhabited

/-- A configuration value. -/
inductive Toml where
  | string (s : String)
  | boolean (b : Bool)
  | number (inRange : Bool)
  | date
  /-- An array; `ofTables` if it was built by headers. -/
  | array (ofTables : Bool) (items : List Toml)
  | table (origin : TableOrigin) (entries : List (String × Toml))
deriving Repr, Inhabited

namespace Toml

abbrev Entries := List (String × Toml)

/-- A table that is being built. -/
structure Table where
  origin : TableOrigin
  entries : Entries
deriving Inhabited

def Table.empty (origin : TableOrigin) : Table := ⟨origin, []⟩

/-- Entries in which `key` has the value `value`. -/
def set (key : String) (value : Toml) : Entries → Entries
  | [] => [(key, value)]
  | (k, v) :: rest => if k = key then (k, value) :: rest else (k, v) :: set key value rest

/-- Applies `change` to the table at the end of `path`, making the tables on the way that
are missing.  A path of a dotted key passes through no table with a header. -/
def descend (dotted : Bool) (change : Table → Option Table) : List String → Table → Option Table
  | [], whole => change whole
  | key :: rest, whole =>
    match whole.entries.lookup key with
    | none => do
      let t ← descend dotted change rest (.empty (if dotted then .dotted else .passage))
      some { whole with entries := set key (.table t.origin t.entries) whole.entries }
    | some (.table origin entries) =>
      if origin = .inlined ∨ (dotted = true ∧ origin = .header) then none
      else do
        let t ← descend dotted change rest ⟨origin, entries⟩
        some { whole with entries := set key (.table t.origin t.entries) whole.entries }
    | some (.array true items) =>
      match items.getLast? with
      | some (.table origin entries) => do
        let t ← descend dotted change rest ⟨origin, entries⟩
        some { whole with
          entries := set key (.array true (items.dropLast ++ [.table t.origin t.entries])) whole.entries }
      | _ => none
    | some _ => none

/-- Gives a dotted key a value.  The key has to be new, and the table that it is put in
must have been made by dotted keys if the key has several parts. -/
def Table.assign (whole : Table) (path : List String) (value : Toml) : Option Table :=
  match path.getLast? with
  | none => none
  | some key =>
    let way := path.dropLast
    descend true (fun t =>
      if (t.origin = .dotted) = way.isEmpty then none
      else if (t.entries.lookup key).isSome then none
      else some { t with entries := set key value t.entries }) way whole

def Table.openTable (root : Table) (path : List String) : Option Table :=
  match path.getLast? with
  | none => none
  | some key =>
    descend false (fun t =>
      match t.entries.lookup key with
      | none => some { t with entries := set key (.table .header []) t.entries }
      | some (.table .passage entries) =>
        some { t with entries := set key (.table .header entries) t.entries }
      | some _ => none) path.dropLast root

def Table.openElement (root : Table) (path : List String) : Option Table :=
  match path.getLast? with
  | none => none
  | some key =>
    descend false (fun t =>
      match t.entries.lookup key with
      | none => some { t with entries := set key (.array true [.table .header []]) t.entries }
      | some (.array true items) =>
        some { t with entries := set key (.array true (items ++ [.table .header []])) t.entries }
      | some _ => none) path.dropLast root

/-- Applies `change` to the table that the last header opened. -/
def Table.atHeader (change : Table → Option Table) : List String → Table → Option Table
  | [], whole => change whole
  | key :: rest, whole =>
    match whole.entries.lookup key with
    | some (.table origin entries) => do
      let t ← atHeader change rest ⟨origin, entries⟩
      some { whole with entries := set key (.table t.origin t.entries) whole.entries }
    | some (.array ofTables items) =>
      match items.getLast? with
      | some (.table origin entries) => do
        let t ← atHeader change rest ⟨origin, entries⟩
        some { whole with
          entries :=
            set key (.array ofTables (items.dropLast ++ [.table t.origin t.entries])) whole.entries }
      | _ => none
    | _ => none

end Toml

end Showcase
