import Showcase.Proofs.Disk.Descent

namespace Showcase

/-!
# Other contents in one directory

Files may be changed, added and removed in one directory.  On a disk without links every
path that leads past that directory leads to the same node before and after.
-/

namespace Node

theorem lookup_setEntry (name : String) (new : Node) (entries : List (String × Node))
    (other : String) :
    (setEntry name new entries).lookup other =
      if other = name then some new else entries.lookup other := by
  induction entries with
  | nil =>
      by_cases hother : other = name
      · simp [setEntry, hother]
      · have hne : (other == name) = false := beq_false_of_ne hother
        simp [setEntry, List.lookup_cons, hother, hne]
  | cons entry rest ih =>
      obtain ⟨key, value⟩ := entry
      by_cases hkey : key = name
      · subst hkey
        by_cases hother : other = key
        · simp [setEntry, hother]
        · have hne : (other == key) = false := beq_false_of_ne hother
          simp [setEntry, List.lookup_cons, hother, hne]
      · rw [setEntry, if_neg hkey, List.lookup_cons, List.lookup_cons, ih]
        by_cases hother : other = key
        · simp [hother, hkey]
        · have hne : (other == key) = false := beq_false_of_ne hother
          simp only [hne]

/-- What is seen of the entries alike does not change when one is replaced. -/
theorem map_setEntry {f : String × Node → α} {entries : List (String × Node)} {name : String}
    {old new : Node} (hold : entries.lookup name = some old) (hf : f (name, new) = f (name, old)) :
    (setEntry name new entries).map f = entries.map f := by
  induction entries with
  | nil => cases hold
  | cons entry rest ih =>
      obtain ⟨key, value⟩ := entry
      by_cases hkey : key = name
      · subst hkey
        obtain rfl : value = old := by simpa using hold
        simp [setEntry, hf]
      · have hne : (name == key) = false := beq_false_of_ne (Ne.symm hkey)
        rw [List.lookup_cons, hne] at hold
        simp [setEntry, hkey, ih hold]

theorem LinkFree.setEntry {entries : List (String × Node)} {name : String} {new : Node}
    (h : (Node.directory entries).LinkFree) (hnew : new.LinkFree) :
    (Node.directory (Node.setEntry name new entries)).LinkFree := by
  cases h with
  | directory below =>
      refine .directory fun entry hentry => ?_
      rcases mem_of_mem_setEntry hentry with rfl | hentry
      · exact hnew
      · exact below entry hentry

theorem LinkFree.put {node new : Node} (h : node.LinkFree) (hnew : new.LinkFree)
    (place : List String) : (node.put place new).LinkFree := by
  induction place generalizing node with
  | nil => cases node <;> exact hnew
  | cons name rest ih =>
      cases node with
      | directory entries =>
          unfold Node.put
          dsimp only
          split
          · rename_i child hchild
            have hfree : child.LinkFree := h.child? hchild
            exact h.setEntry (ih hfree)
          · split
            · exact h.setEntry hnew
            · exact h
      | _ => exact h

/-- Above the place where a node is put, its directory has one entry replaced. -/
theorem at?_put_append_singleton {node new : Node} {place : List String} {name : String}
    {entries : List (String × Node)} {old : Node}
    (hplace : node.at? place = some (directory entries)) (hold : entries.lookup name = some old) :
    (node.put (place ++ [name]) new).at? place =
      some (directory (setEntry name new entries)) := by
  induction place generalizing node with
  | nil =>
      obtain rfl : node = directory entries := by simpa [at?] using hplace
      simp [put, hold, at?]
  | cons first rest ih =>
      obtain ⟨child, hchild, hrest⟩ := Option.bind_eq_some_iff.mp hplace
      cases node with
      | directory siblings =>
          have hlookup : siblings.lookup first = some child := hchild
          simp only [List.cons_append, put, hlookup, at?, child?, lookup_setEntry, if_true,
            Option.bind_some]
          exact ih hrest
      | _ => cases hchild

end Node

namespace Disk

theorem isDirectory_of_find {disk : Disk} {path : String} {place : List String} {node : Node}
    (h : disk.find path = .ok (place, node)) : disk.isDirectory path = node.isDirectory := by
  rw [isDirectory, node?, h]
  rfl

/-- The disk with other entries in the directory at a place. -/
def refill (disk : Disk) (place : List String) (entries : List (String × Node)) : Disk :=
  { disk with root := disk.root.put place (.directory entries) }

/-- A directory on a disk without links, and other entries for one of its subdirectories.
The path that leads to the directory may pass through that subdirectory, so it is required
to lead to a directory afterwards too. -/
structure Refilled (disk : Disk) (path : String) (place : List String)
    (entries : List (String × Node)) (name : String) (old new : List (String × Node)) : Prop where
  linkFree : disk.root.LinkFree
  linkFree_new : (Node.directory new).LinkFree
  find : disk.find path = .ok (place, .directory entries)
  lookup : entries.lookup name = some (.directory old)
  isDirectory : (disk.refill (place ++ [name]) new).isDirectory path = true

namespace Refilled

variable {disk : Disk} {path name : String} {place : List String}
  {entries old new : List (String × Node)}

theorem linkFree_refill (h : disk.Refilled path place entries name old new) :
    (disk.refill (place ++ [name]) new).root.LinkFree := h.linkFree.put h.linkFree_new _

/-- The path leads to the same place, where one entry has changed. -/
theorem find_refill (h : disk.Refilled path place entries name old new) :
    (disk.refill (place ++ [name]) new).find path =
      .ok (place, .directory (Node.setEntry name (.directory new) entries)) := by
  have hdirectory := h.isDirectory
  unfold Disk.isDirectory node? at hdirectory
  cases hfind : (disk.refill (place ++ [name]) new).find path with
  | error fault => simp [hfind] at hdirectory
  | ok result =>
      obtain ⟨place', node'⟩ := result
      -- The path may pass through what has changed, but its segments alone tell where it leads.
      obtain rfl : place' = place := place_eq_of_find h.linkFree h.linkFree_refill rfl h.find hfind
      have hnode' : _ = some node' := at?_of_find hfind
      rw [refill, Node.at?_put_append_singleton (at?_of_find h.find) h.lookup] at hnode'
      rw [Option.some.inj hnode']

theorem find_below_refill (h : disk.Refilled path place entries name old new)
    {names : List String} (hnames : ∀ other ∈ names, Path.IsName other) :
    (disk.refill (place ++ [name]) new).find (Path.below path names) =
      (Node.directory (Node.setEntry name (.directory new) entries)).descend place names :=
  find_below h.linkFree_refill h.find_refill hnames

/-- Beside the directory with other entries nothing changes. -/
theorem find_sibling (h : disk.Refilled path place entries name old new) {other : String}
    {rest : List String} (hother : other ≠ name)
    (hnames : ∀ next ∈ other :: rest, Path.IsName next) :
    (disk.refill (place ++ [name]) new).find (Path.below path (other :: rest)) =
      disk.find (Path.below path (other :: rest)) := by
  rw [h.find_below_refill hnames, find_below h.linkFree h.find hnames]
  simp only [Node.descend, Node.lookup_setEntry, if_neg hother]

/-- The directory with other entries is no file before and after. -/
theorem isFile_refilled (h : disk.Refilled path place entries name old new)
    (hname : Path.IsName name) :
    disk.isFile (Path.below path [name]) = false ∧
      (disk.refill (place ++ [name]) new).isFile (Path.below path [name]) = false := by
  have hnames : ∀ next ∈ [name], Path.IsName next := by simpa using hname
  unfold isFile node?
  rw [h.find_below_refill hnames, find_below h.linkFree h.find hnames]
  simp only [Node.descend, Node.lookup_setEntry, h.lookup, if_true]
  by_cases hlong : longestName < Path.size name
  · simp [hlong]
  · simp [hlong, Node.isFile]

end Refilled

end Disk

end Showcase
