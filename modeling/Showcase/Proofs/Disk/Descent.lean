import Showcase.Proofs.Disk.Places

namespace Showcase

/-!
# Going down without links

On a disk without symbolic links a path leads where its segments say, whatever the disk
holds.  What names below a path lead to then depends only on the node that the path leads to,
so a change in one directory is not seen from the directories beside it.
-/

/-! ## Names below a path -/

namespace Path

variable {base name : String}

theorem join_ne_empty (h : IsName name) : join base name ≠ "" := by
  rcases join_eq base h with hjoin | ⟨above, hjoin⟩
  · rw [hjoin]
    exact h.ne_empty
  · rw [hjoin]
    intro hempty
    simpa using congrArg String.toList hempty

theorem isAbsolute_append (hbase : base ≠ "") (rest : String) :
    isAbsolute (base ++ rest) = isAbsolute base := by
  have hne : base.toList ≠ [] := by simpa using hbase
  obtain ⟨c, cs, hcs⟩ := List.exists_cons_of_ne_nil hne
  rw [isAbsolute, isAbsolute, Bool.eq_iff_iff, String.startsWith_string_iff,
    String.startsWith_string_iff]
  simp [hcs, List.cons_prefix_cons]

theorem isAbsolute_join (hbase : base ≠ "") (h : IsName name) :
    isAbsolute (join base name) = isAbsolute base := by
  unfold join
  rw [h.isAbsolute_eq_false, if_neg Bool.false_ne_true]
  split
  · exact isAbsolute_append hbase name
  · rw [String.append_assoc]
    exact isAbsolute_append hbase _

/-- The segments of a path without an empty one behind a slash at its end. -/
def stem (path : String) : List String :=
  if path.endsWith "/" then (segments path).dropLast else segments path

theorem exists_above_of_endsWith (h : base.endsWith "/" = true) :
    ∃ above, base = above ++ "/" := by
  rw [← String.endsWith_toSlice, String.Slice.endsWith_string_iff] at h
  obtain ⟨above, habove⟩ := h
  exact ⟨String.ofList above, by simpa [← String.toList_inj] using habove.symm⟩

theorem segments_append_slash_empty (above : String) :
    segments (above ++ "/") = segments above ++ [""] := by
  have h : segments (above ++ "/" ++ "") = segments above ++ [""] :=
    segments_append_slash above (by simp)
  rwa [String.append_empty] at h

theorem segments_eq_stem (path : String) :
    segments path = stem path ∨ segments path = stem path ++ [""] := by
  unfold stem
  split
  · rename_i h
    obtain ⟨above, rfl⟩ := exists_above_of_endsWith h
    rw [segments_append_slash_empty, List.dropLast_concat]
    exact .inr rfl
  · exact .inl rfl

theorem segments_join (hbase : base ≠ "") (h : IsName name) :
    segments (join base name) = stem base ++ [name] := by
  unfold join stem
  rw [h.isAbsolute_eq_false, if_neg Bool.false_ne_true]
  by_cases hslash : base.endsWith "/" = true
  · obtain ⟨above, rfl⟩ := exists_above_of_endsWith hslash
    rw [if_pos (.inr hslash), if_pos hslash, segments_append_slash_empty, List.dropLast_concat,
      segments_append_slash above h.slash_notMem]
  · rw [if_neg (not_or.mpr ⟨hbase, hslash⟩), if_neg hslash,
      segments_append_slash base h.slash_notMem]

theorem stem_join (hbase : base ≠ "") (h : IsName name) :
    stem (join base name) = stem base ++ [name] := by
  have hsegments := segments_join hbase h
  rcases segments_eq_stem (join base name) with hstem | hstem
  · rw [← hstem, hsegments]
  · rw [hsegments] at hstem
    exact absurd (List.append_inj' hstem rfl).2 (by simpa using h.ne_empty)

/-- Names that are put below a path, one below the other. -/
def below (base : String) (names : List String) : String := names.foldl join base

theorem below_ne_empty {names : List String} (hbase : base ≠ "") (h : ∀ name ∈ names, IsName name) :
    below base names ≠ "" := by
  induction names generalizing base with
  | nil => exact hbase
  | cons name rest ih =>
      exact ih (join_ne_empty (h name List.mem_cons_self))
        fun other hother => h other (List.mem_cons_of_mem name hother)

theorem isAbsolute_below {names : List String} (hbase : base ≠ "")
    (h : ∀ name ∈ names, IsName name) : isAbsolute (below base names) = isAbsolute base := by
  induction names generalizing base with
  | nil => rfl
  | cons name rest ih =>
      have hname : IsName name := h name List.mem_cons_self
      rw [← isAbsolute_join hbase hname]
      exact ih (join_ne_empty hname) fun other hother => h other (List.mem_cons_of_mem name hother)

theorem segments_below {names : List String} (hnames : names ≠ []) (hbase : base ≠ "")
    (h : ∀ name ∈ names, IsName name) : segments (below base names) = stem base ++ names := by
  induction names generalizing base with
  | nil => exact absurd rfl hnames
  | cons name rest ih =>
      have hname : IsName name := h name List.mem_cons_self
      cases rest with
      | nil => exact segments_join hbase hname
      | cons next rest =>
          have hrest : segments (below (join base name) (next :: rest)) = _ :=
            ih (List.cons_ne_nil next rest) (join_ne_empty hname)
              fun other hother => h other (List.mem_cons_of_mem name hother)
          rw [stem_join hbase hname, List.append_assoc, List.singleton_append] at hrest
          exact hrest

end Path

/-! ## Trees without links -/

namespace Node

/-- A tree without symbolic links. -/
inductive LinkFree : Node → Prop
  | file (content : Content) : LinkFree (file content)
  | directory {entries : List (String × Node)} (below : ∀ entry ∈ entries, LinkFree entry.2) :
      LinkFree (directory entries)
  | closed : LinkFree closed

theorem LinkFree.child? {node child : Node} {name : String} (h : node.LinkFree)
    (hchild : node.child? name = some child) : child.LinkFree := by
  cases h with
  | directory below => exact below _ (mem_of_child? hchild)
  | file | closed => simp [Node.child?] at hchild

theorem LinkFree.at? {node below : Node} {place : List String} (h : node.LinkFree)
    (hbelow : node.at? place = some below) : below.LinkFree := by
  induction place generalizing node with
  | nil =>
      obtain rfl : node = below := by simpa [Node.at?] using hbelow
      exact h
  | cons name rest ih =>
      obtain ⟨child, hchild, hrest⟩ := Option.bind_eq_some_iff.mp hbelow
      exact ih (h.child? hchild) hrest

/-- What names lead to from a node at a place, one below the other. -/
def descend (place : List String) : List String → Node → Except DiskFault (List String × Node)
  | [], node => .ok (place, node)
  | name :: rest, directory entries =>
    if Disk.longestName < Path.size name then .error .nameTooLong
    else
      match entries.lookup name with
      | none => .error .missing
      | some child => descend (place ++ [name]) rest child
  | _ :: _, closed => .error .permissionDenied
  | _ :: _, _ => .error .notDirectory

end Node

namespace Disk

variable {disk : Disk} {follow : Bool} {jump : List String → List String → Except DiskFault Goal}

/-- The place that a segment leads to from another place if there are no links. -/
def advance (place : List String) (segment : String) : List String :=
  if Path.isIdle segment then place
  else if segment = ".." then place.dropLast
  else place ++ [segment]

section Along

variable (hlinks : disk.root.LinkFree)

include hlinks

/-- A segment on the way to a node leads one step on, whatever comes behind it. -/
theorem along_cons_of_node {place place' rest : List String} {segment : String} {node : Node}
    (h : disk.along follow jump place (segment :: rest) = .ok (.node place' node))
    (tail : List String) :
    disk.along follow jump place (segment :: tail) =
      disk.along follow jump (advance place segment) tail := by
  rw [along] at h
  rw [along]
  cases hplace : disk.root.at? place with
  | none => simp [hplace] at h
  | some start =>
      cases start with
      | directory entries =>
          simp only [hplace] at h
          by_cases hidle : Path.isIdle segment = true
          · simp [advance, hidle]
          by_cases habove : segment = ".."
          · simp [advance, habove, Path.isIdle]
          by_cases hlong : longestName < Path.size segment
          · simp [hidle, habove, hlong] at h
          cases hlookup : entries.lookup segment with
          | none =>
              simp only [hidle, habove, hlong, hlookup, Bool.false_eq_true, if_false] at h
              split at h <;> cases h
          | some child =>
              -- Only a link would jump elsewhere.
              have hchild : child.LinkFree := (hlinks.at? hplace).child? hlookup
              cases hchild with
              | file | directory | closed => simp [advance, hidle, habove, hlong, hlookup]
      | file _ | closed | link _ => simp [hplace] at h

theorem eq_foldl_advance_of_along {segments place place' : List String} {node : Node}
    (h : disk.along follow jump place segments = .ok (.node place' node)) :
    place' = segments.foldl advance place := by
  induction segments generalizing place with
  | nil =>
      unfold along at h
      split at h <;> cases h
      rfl
  | cons segment rest ih =>
      rw [along_cons_of_node hlinks h] at h
      exact ih h

/-- Segments are followed one after the other. -/
theorem along_append {xs place place' : List String} {node : Node}
    (h : disk.along follow jump place xs = .ok (.node place' node)) (ys : List String) :
    disk.along follow jump place (xs ++ ys) = disk.along follow jump place' ys := by
  induction xs generalizing place with
  | nil =>
      unfold along at h
      split at h <;> cases h
      rfl
  | cons segment rest ih =>
      have hstep := along_cons_of_node hlinks h
      rw [List.cons_append, hstep]
      rw [hstep] at h
      exact ih h

/-- A slash at the end of a path to a node changes nothing. -/
theorem along_of_along_append_empty {segments place place' : List String} {node : Node}
    (h : disk.along follow jump place (segments ++ [""]) = .ok (.node place' node)) :
    disk.along follow jump place segments = .ok (.node place' node) := by
  induction segments generalizing place with
  | nil =>
      rw [List.nil_append, along_cons_of_node hlinks h] at h
      exact h
  | cons segment rest ih =>
      rw [List.cons_append] at h
      have hstep := along_cons_of_node hlinks h
      rw [hstep] at h ⊢
      exact ih h

end Along

/-- What a goal is for those who look for a node. -/
def found : Except DiskFault Goal → Except DiskFault (List String × Node)
  | .ok (.node place node) => .ok (place, node)
  | .ok (.vacant _ _) => .error .missing
  | .error fault => .error fault

theorem find_eq_found (disk : Disk) (path : String) :
    disk.find path = found (disk.goal true path) := by
  unfold find found
  split <;> simp_all

theorem find_eq_ok_iff {disk : Disk} {path : String} {place : List String} {node : Node} :
    disk.find path = .ok (place, node) ↔ disk.goal true path = .ok (.node place node) := by
  rw [find_eq_found]
  cases disk.goal true path with
  | error fault => simp [found]
  | ok goal => cases goal <;> simp [found]

theorem exists?_iff {disk : Disk} {path : String} :
    disk.exists? path = true ↔ ∃ place node, disk.goal true path = .ok (.node place node) := by
  unfold exists? node?
  rw [find_eq_found]
  cases disk.goal true path with
  | error fault => simp [found]
  | ok goal => cases goal <;> simp [found]

theorem exists_reach_eq_along (disk : Disk) (follow : Bool) (links : Nat) :
    ∃ jump, disk.reach follow links = disk.along follow jump := by
  cases links with
  | zero => exact ⟨_, rfl⟩
  | succ links => exact ⟨_, rfl⟩

/-- The place at which a path begins. -/
def origin (disk : Disk) (path : String) : List String :=
  if Path.isAbsolute path then [] else disk.current

theorem along_of_find {path : String} {place : List String} {node : Node}
    (h : disk.find path = .ok (place, node)) :
    path ≠ "" ∧ ∃ jump, disk.reach true linkLimit = disk.along true jump ∧
      disk.along true jump (disk.origin path) (Path.segments path) = .ok (.node place node) := by
  obtain ⟨jump, hjump⟩ := exists_reach_eq_along disk true linkLimit
  rw [find_eq_found, goal, hjump] at h
  split at h
  · cases h
  · rename_i hne
    unfold found at h
    split at h <;> cases h
    exact ⟨hne, jump, hjump, by assumption⟩

section Below

variable (hlinks : disk.root.LinkFree)

include hlinks

/-- Along names, a path goes down the tree. -/
theorem found_along_names {place names : List String} {node : Node}
    (hnames : ∀ name ∈ names, Path.IsName name) (hplace : disk.root.at? place = some node) :
    found (disk.along true jump place names) = node.descend place names := by
  -- One name further down, the child stands at the place that the name leads to.
  induction names generalizing place node with
  | nil =>
      unfold along
      rw [hplace]
      rfl
  | cons name rest ih =>
      have hname : Path.IsName name := hnames name List.mem_cons_self
      unfold along
      cases node with
      | directory entries =>
          simp only [hplace, hname.isIdle_eq_false, hname.ne_above, Bool.false_eq_true, if_false,
            Node.descend]
          split
          · rfl
          cases hlookup : entries.lookup name with
          | none =>
              simp only []
              split <;> rfl
          | some child =>
              have hchild : disk.root.at? (place ++ [name]) = some child := by
                rw [Node.at?_append_singleton, hplace]
                exact hlookup
              have hrest := ih (fun other hother => hnames other (List.mem_cons_of_mem name hother))
                hchild
              have hfree : child.LinkFree := (hlinks.at? hplace).child? hlookup
              cases hfree with
              | file | directory | closed => exact hrest
      | file _ | closed | link _ =>
          simp only [hplace]
          rfl

/-- What names below a path lead to is found in the node that the path leads to. -/
theorem find_below {base : String} {place names : List String} {node : Node}
    (hbase : disk.find base = .ok (place, node)) (hnames : ∀ name ∈ names, Path.IsName name) :
    disk.find (Path.below base names) = node.descend place names := by
  cases names with
  | nil => exact hbase
  | cons name rest =>
      obtain ⟨hne, jump, hjump, halong⟩ := along_of_find hbase
      -- A slash at the end of `base` is not written twice when names are put below it.
      have hstem : disk.along true jump (disk.origin base) (Path.stem base) =
          .ok (.node place node) := by
        rcases Path.segments_eq_stem base with hsegments | hsegments <;> rw [hsegments] at halong
        · exact halong
        · exact along_of_along_append_empty hlinks halong
      have hbelow : disk.goal true (Path.below base (name :: rest)) =
          disk.along true jump place (name :: rest) := by
        rw [goal, if_neg (Path.below_ne_empty hne hnames), hjump, Path.isAbsolute_below hne hnames,
          Path.segments_below (List.cons_ne_nil name rest) hne hnames]
        exact along_append hlinks hstem _
      rw [find_eq_found, hbelow]
      exact found_along_names hlinks hnames (at?_of_find hbase)

/-- Where a path leads on a disk without links is told by the path alone. -/
theorem place_eq_of_find {other : Disk} (hother : other.root.LinkFree)
    (hcurrent : other.current = disk.current) {path : String} {place place' : List String}
    {node node' : Node} (h : disk.find path = .ok (place, node))
    (h' : other.find path = .ok (place', node')) : place' = place := by
  obtain ⟨-, jump, -, halong⟩ := along_of_find h
  obtain ⟨-, jump', -, halong'⟩ := along_of_find h'
  have horigin : other.origin path = disk.origin path := by rw [origin, origin, hcurrent]
  calc
    place' = (Path.segments path).foldl advance (other.origin path) :=
      eq_foldl_advance_of_along hother halong'
    _ = (Path.segments path).foldl advance (disk.origin path) := by rw [horigin]
    _ = place := (eq_foldl_advance_of_along hlinks halong).symm

end Below

end Disk

end Showcase
