import Showcase.Disk.Tree
import Showcase.Proofs.Disk.Paths

namespace Showcase

/-!
# Places on a disk

A path that leads to a node leads to the place of that node in the tree.  What holds of
all nodes of a tree, such as that the entries of a directory have names of their own, thus
holds of everything that a path leads to.
-/

/-- The name of an entry in a directory is told by its bytes. -/
structure Path.IsEntryName (name : String) : Prop where
  isName : IsName name
  coded : ofBytes (bytes name) = name

instance (name : String) : Decidable (Path.IsEntryName name) :=
  decidable_of_iff (Path.IsName name ∧ Path.ofBytes (Path.bytes name) = name)
    ⟨fun ⟨h₁, h₂⟩ => ⟨h₁, h₂⟩, fun ⟨h₁, h₂⟩ => ⟨h₁, h₂⟩⟩

theorem Path.IsEntryName.eq_of_bytes_eq {name other : String} (h : IsEntryName name)
    (hother : IsEntryName other) (hbytes : bytes name = bytes other) : name = other := by
  rw [← h.coded, hbytes, hother.coded]

namespace Node

/-- A tree in which the entries of each directory have names, one name each. -/
inductive WellFormed : Node → Prop
  | file (content : Content) : WellFormed (file content)
  | directory {entries : List (String × Node)} (nodup : (entries.map Prod.fst).Nodup)
      (names : ∀ entry ∈ entries, Path.IsEntryName entry.1)
      (below : ∀ entry ∈ entries, WellFormed entry.2) : WellFormed (directory entries)
  | closed : WellFormed closed
  | link (target : String) : WellFormed (link target)

theorem WellFormed.nodup_names {entries : List (String × Node)}
    (h : (Node.directory entries).WellFormed) : (entries.map Prod.fst).Nodup := by
  cases h with
  | directory nodup _ _ => exact nodup

theorem WellFormed.isEntryName {entries : List (String × Node)}
    (h : (Node.directory entries).WellFormed) {entry : String × Node} (hentry : entry ∈ entries) :
    Path.IsEntryName entry.1 := by
  cases h with
  | directory _ names _ => exact names entry hentry

theorem WellFormed.isName {entries : List (String × Node)} (h : (Node.directory entries).WellFormed)
    {entry : String × Node} (hentry : entry ∈ entries) : Path.IsName entry.1 :=
  (h.isEntryName hentry).isName

theorem mem_of_child? {entries : List (String × Node)} {name : String} {child : Node}
    (h : (directory entries).child? name = some child) : (name, child) ∈ entries := by
  obtain ⟨before, after, rfl, -⟩ := List.lookup_eq_some_iff.mp h
  simp

theorem WellFormed.child? {node child : Node} {name : String} (h : node.WellFormed)
    (hchild : node.child? name = some child) : child.WellFormed := by
  cases h with
  | directory nodup names below => exact below _ (mem_of_child? hchild)
  | file | closed | link => simp [Node.child?] at hchild

theorem WellFormed.at? {node below : Node} {place : List String} (h : node.WellFormed)
    (hbelow : node.at? place = some below) : below.WellFormed := by
  induction place generalizing node with
  | nil =>
      obtain rfl : node = below := by simpa [Node.at?] using hbelow
      exact h
  | cons name rest ih =>
      obtain ⟨child, hchild, hrest⟩ := Option.bind_eq_some_iff.mp hbelow
      exact ih (h.child? hchild) hrest

theorem at?_append_singleton (node : Node) (place : List String) (name : String) :
    node.at? (place ++ [name]) = (node.at? place).bind (child? · name) := by
  induction place generalizing node with
  | nil =>
      simp only [List.nil_append, at?, Option.bind_some]
      cases node.child? name <;> rfl
  | cons first rest ih =>
      simp only [List.cons_append, at?, ih]
      cases node.child? first <;> rfl

/-! ## Planted trees -/

theorem map_fst_setEntry (name : String) (new : Node) (entries : List (String × Node)) :
    (setEntry name new entries).map Prod.fst =
      if name ∈ entries.map Prod.fst then entries.map Prod.fst
      else entries.map Prod.fst ++ [name] := by
  induction entries with
  | nil => simp [setEntry]
  | cons entry rest ih =>
      obtain ⟨key, value⟩ := entry
      by_cases hkey : key = name
      · simp [setEntry, hkey]
      · simp only [setEntry, if_neg hkey, List.map_cons, ih, List.mem_cons, Ne.symm hkey, false_or]
        split <;> rfl

theorem mem_of_mem_setEntry {name : String} {new : Node} {entries : List (String × Node)}
    {entry : String × Node} (h : entry ∈ setEntry name new entries) :
    entry = (name, new) ∨ entry ∈ entries := by
  induction entries with
  | nil => exact Or.inl (List.mem_singleton.mp h)
  | cons first rest ih =>
      obtain ⟨key, value⟩ := first
      unfold setEntry at h
      split at h
      · rename_i hkey
        rcases List.mem_cons.mp h with rfl | hrest
        · exact Or.inl (by rw [hkey])
        · exact Or.inr (List.mem_cons_of_mem _ hrest)
      · rcases List.mem_cons.mp h with rfl | hrest
        · exact Or.inr List.mem_cons_self
        · exact (ih hrest).imp_right (List.mem_cons_of_mem _)

theorem WellFormed.setEntry {entries : List (String × Node)} {name : String} {new : Node}
    (h : (Node.directory entries).WellFormed) (hname : Path.IsEntryName name)
    (hnew : new.WellFormed) : (Node.directory (Node.setEntry name new entries)).WellFormed := by
  cases h with
  | directory nodup names below =>
      refine .directory ?_ (fun entry hentry => ?_) fun entry hentry => ?_
      · rw [map_fst_setEntry]
        split
        · exact nodup
        · rename_i hfresh
          exact List.nodup_append.mpr ⟨nodup, by simp, by
            rintro a ha b hb rfl
            exact hfresh (List.mem_singleton.mp hb ▸ ha)⟩
      · rcases mem_of_mem_setEntry hentry with rfl | hentry
        · exact hname
        · exact names entry hentry
      · rcases mem_of_mem_setEntry hentry with rfl | hentry
        · exact hnew
        · exact below entry hentry

theorem wellFormed_empty : (directory []).WellFormed :=
  .directory List.nodup_nil (fun _ h => nomatch h) fun _ h => nomatch h

/-- What is planted at names in a well-formed tree, such as the empty one, leaves it
well formed. -/
theorem WellFormed.plant {new : Node} (hnew : new.WellFormed) {place : List String}
    (hplace : ∀ name ∈ place, Path.IsEntryName name) {node : Node} (h : node.WellFormed) :
    (Node.plant new place node).WellFormed := by
  induction place generalizing node with
  | nil =>
      cases node with
      | directory entries =>
          unfold Node.plant
          split
          · exact h
          · exact hnew
      | _ => exact hnew
  | cons name rest ih =>
      have hname : Path.IsEntryName name := hplace name List.mem_cons_self
      have hrest : ∀ other ∈ rest, Path.IsEntryName other :=
        fun other hother => hplace other (List.mem_cons_of_mem name hother)
      cases node with
      | directory entries =>
          refine h.setEntry hname (ih hrest ?_)
          cases hlookup : entries.lookup name with
          | none => exact wellFormed_empty
          | some child => exact h.child? hlookup
      | _ => exact wellFormed_empty.setEntry hname (ih hrest wellFormed_empty)

end Node

namespace Disk

variable {disk : Disk} {follow : Bool} {segments place : List String} {node : Node}

/-- Whether a goal that is a node is the node at its place. -/
def Placed (disk : Disk) (goal : Except DiskFault Goal) : Prop :=
  ∀ place node, goal = .ok (.node place node) → disk.root.at? place = some node

/-- Going along segments leads to placed nodes if jumps do. -/
theorem along_placed {jump : List String → List String → Except DiskFault Goal}
    (hjump : ∀ start rest, disk.Placed (jump start rest)) (start : List String) :
    disk.Placed (disk.along follow jump start segments) := by
  induction segments generalizing start with
  | nil =>
      intro place node h
      unfold along at h
      split at h
      · cases h
        assumption
      · cases h
  | cons segment rest ih =>
      intro place node h
      unfold along at h
      split at h
      · rename_i entries hstart
        split at h
        · exact ih _ _ _ h
        split at h
        · exact ih _ _ _ h
        split at h
        · cases h
        split at h
        · split at h <;> cases h
        · -- A link that is not followed stands at its place; behind one that is, `jump` goes on.
          rename_i target hlink
          split at h
          · cases h
            rw [Node.at?_append_singleton, hstart]
            exact hlink
          split at h
          · cases h
          · exact hjump _ _ _ _ h
        · exact ih _ _ _ h
      all_goals cases h

theorem reach_placed (links : Nat) (start segments : List String) :
    disk.Placed (disk.reach follow links start segments) := by
  induction links generalizing start segments with
  | zero =>
      refine along_placed (fun start rest place node h => ?_) start
      cases h
  | succ links ih => exact along_placed ih start

theorem at?_of_find {path : String} (h : disk.find path = .ok (place, node)) :
    disk.root.at? place = some node := by
  have hgoal : disk.goal true path = .ok (.node place node) := by
    unfold find at h
    split at h
    · rename_i hgoal
      cases h
      exact hgoal
    all_goals cases h
  unfold goal at hgoal
  split at hgoal
  · cases hgoal
  · exact reach_placed _ _ _ _ _ hgoal

theorem wellFormed_of_find {path : String} (hdisk : disk.root.WellFormed)
    (h : disk.find path = .ok (place, node)) : node.WellFormed :=
  hdisk.at? (at?_of_find h)

end Disk

end Showcase
