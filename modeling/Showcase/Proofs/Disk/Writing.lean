import Mathlib.Tactic.SplitIfs
import Showcase.Proofs.Disk.Refill
import Showcase.Proofs.Disk.Steps

namespace Showcase

/-!
# Writing a file

A path that can be written to leads to a file or to a free name.  Once it has been written to, it
leads to a file with the text, and all other places show what they showed before.  What is seen
along other paths therefore changes only where they lead to that file or would lead past it.
-/

namespace Node

/-- What a node shows of itself, without what stands below it. -/
inductive Face where
  | file (content : Content)
  | directory
  | closed
  | link (target : String)
deriving DecidableEq

def face : Node → Face
  | file content => .file content
  | directory _ => .directory
  | closed => .closed
  | link target => .link target

theorem face_eq_directory_iff {node : Node} :
    node.face = .directory ↔ ∃ entries, node = directory entries := by
  cases node <;> simp [face]

theorem eq_of_face_eq_link {node : Node} {target : String} (h : node.face = .link target) :
    node = link target := by
  cases node <;> simp_all [face]

/-- Whether a file may be put at a place: there is a file, or its directory has no entry of that
name. -/
def Takes : Node → List String → Prop
  | file _, [] => True
  | directory entries, name :: rest =>
    match entries.lookup name with
    | some child => child.Takes rest
    | none => rest = []
  | _, _ => False

theorem takes_of_file {node : Node} {place : List String} {content : Content}
    (h : node.at? place = some (file content)) : node.Takes place := by
  induction place generalizing node with
  | nil =>
      obtain rfl : node = file content := by simpa [at?] using h
      trivial
  | cons name rest ih =>
      obtain ⟨child, hchild, hrest⟩ := Option.bind_eq_some_iff.mp h
      cases node with
      | directory entries =>
          have hlookup : entries.lookup name = some child := hchild
          simp only [Takes, hlookup]
          exact ih hrest
      | _ => cases hchild

theorem takes_of_free {node : Node} {above : List String} {name : String}
    {entries : List (String × Node)} (habove : node.at? above = some (directory entries))
    (hfree : entries.lookup name = none) : node.Takes (above ++ [name]) := by
  induction above generalizing node with
  | nil =>
      obtain rfl : node = directory entries := by simpa [at?] using habove
      simp [Takes, hfree]
  | cons first rest ih =>
      obtain ⟨child, hchild, hrest⟩ := Option.bind_eq_some_iff.mp habove
      cases node with
      | directory siblings =>
          have hlookup : siblings.lookup first = some child := hchild
          simp only [List.cons_append, Takes, hlookup]
          exact ih hrest
      | _ => cases hchild

namespace Takes

variable {node : Node} {place : List String}

/-- Only a file gives way. -/
theorem exists_file_of_at? (h : node.Takes place) {old : Node} (hold : node.at? place = some old) :
    ∃ content, old = file content := by
  induction place generalizing node with
  | nil =>
      obtain rfl : node = old := by simpa [at?] using hold
      cases node with
      | file content => exact ⟨content, rfl⟩
      | _ => exact h.elim
  | cons name rest ih =>
      obtain ⟨child, hchild, hrest⟩ := Option.bind_eq_some_iff.mp hold
      cases node with
      | directory entries =>
          have hlookup : entries.lookup name = some child := hchild
          simp only [Takes, hlookup] at h
          exact ih h hrest
      | _ => cases hchild

/-- What is put below a name goes into the entry of that name, or becomes a new one. -/
theorem put_cons {name : String} {rest : List String} (h : node.Takes (name :: rest)) (new : Node) :
    ∃ entries, node = directory entries ∧
      ((∃ child, entries.lookup name = some child ∧ child.Takes rest ∧
          node.put (name :: rest) new = directory (setEntry name (child.put rest new) entries)) ∨
        (entries.lookup name = none ∧ rest = [] ∧
          node.put (name :: rest) new = directory (setEntry name new entries))) := by
  cases node with
  | directory entries =>
      refine ⟨entries, rfl, ?_⟩
      unfold Takes at h
      cases hlookup : entries.lookup name with
      | some child =>
          simp only [hlookup] at h
          exact .inl ⟨child, rfl, h, by simp only [put, hlookup]⟩
      | none =>
          simp only [hlookup] at h
          subst h
          exact .inr ⟨rfl, rfl, by simp [put, hlookup]⟩
  | _ => exact h.elim

theorem at?_put (h : node.Takes place) (new : Node) : (node.put place new).at? place = some new := by
  induction place generalizing node with
  | nil => cases node <;> rfl
  | cons name rest ih =>
      obtain ⟨entries, rfl, hput⟩ := h.put_cons new
      rcases hput with ⟨child, -, hchild, hput⟩ | ⟨-, rfl, hput⟩
      · simp only [hput, at?, child?, lookup_setEntry, if_true, Option.bind_some]
        exact ih hchild
      · simp [hput, at?, child?, lookup_setEntry]

/-- A file has nothing below it, neither the one that is put nor one that gives way. -/
theorem face_at?_put (h : node.Takes place) (content : Content) {other : List String}
    (hother : other ≠ place) :
    ((node.put place (file content)).at? other).map face = (node.at? other).map face := by
  have hbelow (content : Content) {other : List String} (hne : other ≠ []) :
      (file content).at? other = none := by
    cases other with
    | nil => exact absurd rfl hne
    | cons name rest => rfl
  induction place generalizing node other with
  | nil =>
      cases node with
      | file old => rw [put, hbelow content hother, hbelow old hother]
      | _ => exact h.elim
  | cons name rest ih =>
      obtain ⟨entries, rfl, hput⟩ := h.put_cons (file content)
      cases other with
      | nil => rcases hput with ⟨child, -, -, hput⟩ | ⟨-, -, hput⟩ <;> rw [hput] <;> rfl
      | cons next others =>
          by_cases hnext : next = name
          · subst hnext
            have hothers : others ≠ rest := by
              rintro rfl
              exact hother rfl
            rcases hput with ⟨child, hlookup, hchild, hput⟩ | ⟨hlookup, rfl, hput⟩
            · simp only [hput, hlookup, at?, child?, lookup_setEntry, if_true, Option.bind_some]
              exact ih hchild hothers
            · simp [hput, hlookup, at?, child?, lookup_setEntry, hbelow content hothers]
          · rcases hput with ⟨child, -, -, hput⟩ | ⟨-, -, hput⟩ <;>
              simp only [hput, at?, child?, lookup_setEntry, if_neg hnext]

end Takes

end Node

namespace Disk

/-- The disk with a file that holds `text` at a place. -/
def fill (disk : Disk) (place : List String) (text : String) : Disk :=
  { disk with root := disk.root.put place (.file (.text text)) }

/-- A path can be written to: it leads to a file that may be replaced, or to a free name with no
slash behind it. -/
inductive Opens (disk : Disk) (path : String) (place : List String) : Prop
  | file (content : Content) (hopen : content.isSealed = false)
      (h : disk.goal true path = .ok (.node place (.file content)))
  | free (h : disk.goal true path = .ok (.vacant place false))

variable {disk after : Disk} {path text : String} {place : List String}

theorem writeText_eq_ok_iff :
    disk.writeText path text = .ok after ↔
      ∃ place, disk.Opens path place ∧ after = disk.fill place text := by
  unfold writeText
  constructor
  · intro h
    split at h
    · rename_i place content hgoal
      cases hopen : content.isSealed with
      | true =>
          rw [hopen, if_pos rfl] at h
          cases h
      | false =>
          rw [hopen, if_neg Bool.false_ne_true] at h
          exact ⟨place, .file content hopen hgoal, (Except.ok.inj h).symm⟩
    · cases h
    · rename_i place slash hgoal
      cases slash with
      | true => cases h
      | false => exact ⟨place, .free hgoal, (Except.ok.inj h).symm⟩
    · cases h
  · rintro ⟨place, hopens, rfl⟩
    rcases hopens with ⟨content, hopen, hgoal⟩ | hgoal
    · rw [hgoal]
      simp only [hopen, Bool.false_eq_true, if_false]
      rfl
    · rw [hgoal]
      rfl

/-! ## Free names -/

/-- Whether a goal that is a free name is one in a directory. -/
def Free (disk : Disk) (goal : Except DiskFault Goal) : Prop :=
  ∀ place slash, goal = .ok (.vacant place slash) → ∃ above name entries,
    place = above ++ [name] ∧ disk.root.at? above = some (.directory entries) ∧
      entries.lookup name = none

theorem along_free {follow : Bool} {jump : List String → List String → Except DiskFault Goal}
    (hjump : ∀ start rest, disk.Free (jump start rest)) (start segments : List String) :
    disk.Free (disk.along follow jump start segments) := by
  induction segments generalizing start with
  | nil =>
      intro place slash h
      unfold along at h
      split at h <;> cases h
  | cons segment rest ih =>
      intro place slash h
      unfold along at h
      split at h
      · rename_i entries hstart
        split at h
        · exact ih _ _ _ h
        split at h
        · exact ih _ _ _ h
        split at h
        · cases h
        split at h
        · rename_i hlookup
          split at h
          · cases h
            exact ⟨start, segment, entries, rfl, hstart, hlookup⟩
          · cases h
        · split at h
          · cases h
          split at h
          · cases h
          · exact hjump _ _ _ _ h
        · exact ih _ _ _ h
      all_goals cases h

theorem reach_free {follow : Bool} (links : Nat) (start segments : List String) :
    disk.Free (disk.reach follow links start segments) := by
  induction links generalizing start segments with
  | zero =>
      apply along_free
      intro start rest place slash h
      cases h
  | succ links ih =>
      apply along_free
      exact ih

theorem exists_above_of_vacant {slash : Bool}
    (h : disk.goal true path = .ok (.vacant place slash)) :
    ∃ above name entries, place = above ++ [name] ∧
      disk.root.at? above = some (.directory entries) ∧ entries.lookup name = none := by
  unfold goal at h
  split at h
  · cases h
  · exact reach_free _ _ _ _ _ h

theorem at?_eq_none_of_vacant {slash : Bool}
    (h : disk.goal true path = .ok (.vacant place slash)) : disk.root.at? place = none := by
  obtain ⟨above, name, entries, rfl, habove, hfree⟩ := exists_above_of_vacant h
  rw [Node.at?_append_singleton, habove]
  exact hfree

theorem Opens.takes (h : disk.Opens path place) : disk.root.Takes place := by
  rcases h with ⟨content, -, hgoal⟩ | hgoal
  · exact Node.takes_of_file (at?_of_find (find_eq_ok_iff.mpr hgoal))
  · obtain ⟨above, name, entries, rfl, habove, hfree⟩ := exists_above_of_vacant hgoal
    exact Node.takes_of_free habove hfree

/-! ## Where paths lead afterwards -/

/-- Where a path leads before `text` is put into a file at `out`, and where it leads then. -/
inductive Refilling (out : List String) (text : String) :
    Except DiskFault Goal → Except DiskFault Goal → Prop
  | written (content : Content) :
      Refilling out text (.ok (.node out (.file content))) (.ok (.node out (.file (.text text))))
  | appeared : Refilling out text (.ok (.vacant out false)) (.ok (.node out (.file (.text text))))
  | node {place : List String} {node node' : Node} (hplace : place ≠ out)
      (hface : node'.face = node.face) :
      Refilling out text (.ok (.node place node)) (.ok (.node place node'))
  | vacant {place : List String} (slash : Bool) (hplace : place ≠ out) :
      Refilling out text (.ok (.vacant place slash)) (.ok (.vacant place slash))
  | failed (fault : DiskFault) : Refilling out text (.error fault) (.error fault)
  /-- The path would lead past the file. -/
  | blocked : Refilling out text (.error .missing) (.error .notDirectory)
  | slashed : Refilling out text (.ok (.vacant out true)) (.error .notDirectory)

section Fill

variable {out : List String} (htakes : disk.root.Takes out)

include htakes

theorem at?_fill (text : String) :
    (disk.fill out text).root.at? out = some (.file (.text text)) := htakes.at?_put _

theorem face_at?_fill (text : String) {other : List String} (hother : other ≠ out) :
    ((disk.fill out text).root.at? other).map Node.face = (disk.root.at? other).map Node.face :=
  htakes.face_at?_put _ hother

theorem exists_at?_fill (text : String) {other : List String} {node : Node} (hother : other ≠ out)
    (hnode : disk.root.at? other = some node) :
    ∃ node', (disk.fill out text).root.at? other = some node' ∧ node'.face = node.face := by
  have hface := face_at?_fill htakes text hother
  rw [hnode] at hface
  exact Option.map_eq_some_iff.mp hface

theorem at?_fill_eq_none (text : String) {other : List String} (hother : other ≠ out)
    (hnone : disk.root.at? other = none) : (disk.fill out text).root.at? other = none := by
  have hface := face_at?_fill htakes text hother
  rw [hnone] at hface
  exact Option.map_eq_none_iff.mp hface

theorem ne_of_not_file {other : List String} {node : Node} (h : disk.root.at? other = some node)
    (hnode : node.isFile = false) : other ≠ out := by
  rintro rfl
  obtain ⟨content, rfl⟩ := htakes.exists_file_of_at? h
  cases hnode

theorem exists_directory_fill (text : String) {other : List String}
    {entries : List (String × Node)} (h : disk.root.at? other = some (.directory entries)) :
    ∃ entries', (disk.fill out text).root.at? other = some (.directory entries') := by
  obtain ⟨node', hnode', hface⟩ := exists_at?_fill htakes text (ne_of_not_file htakes h rfl) h
  obtain ⟨entries', rfl⟩ := Node.face_eq_directory_iff.mp hface
  exact ⟨entries', hnode'⟩

variable {follow : Bool} {jump jump' : List String → List String → Except DiskFault Goal}

theorem along_nil_fill (text : String) (hplace : (disk.root.at? place).isSome) :
    Refilling out text (disk.along follow jump place [])
      ((disk.fill out text).along follow jump' place []) := by
  obtain ⟨node, hnode⟩ := Option.isSome_iff_exists.mp hplace
  unfold along
  rw [hnode]
  by_cases hout : place = out
  · subst hout
    obtain ⟨content, rfl⟩ := htakes.exists_file_of_at? hnode
    rw [at?_fill htakes]
    exact .written content
  · obtain ⟨node', hnode', hface⟩ := exists_at?_fill htakes text hout hnode
    rw [hnode']
    exact .node hout hface

/-- A name under which the file is put was free or a file, and any other name leads on as before. -/
theorem enter_fill (text : String) {name : String} {rest : List String}
    (hplace : (disk.root.at? place).isSome)
    (hjump : ∀ start segments, (disk.root.at? start).isSome →
      Refilling out text (jump start segments) (jump' start segments))
    (hrest : (disk.root.at? (place ++ [name])).isSome →
      Refilling out text (disk.along follow jump (place ++ [name]) rest)
        ((disk.fill out text).along follow jump' (place ++ [name]) rest)) :
    Refilling out text
      (disk.enter follow jump place name rest (disk.root.at? (place ++ [name])))
      ((disk.fill out text).enter follow jump' place name rest
        ((disk.fill out text).root.at? (place ++ [name]))) := by
  by_cases hout : place ++ [name] = out
  · rw [hout, at?_fill htakes text]
    rw [hout] at hrest
    cases hnode : disk.root.at? out with
    | some old =>
        obtain ⟨content, rfl⟩ := htakes.exists_file_of_at? hnode
        unfold enter
        rw [hout]
        exact hrest (by simp [hnode])
    | none =>
        unfold enter
        rw [hout]
        cases rest with
        | nil =>
            unfold along
            rw [at?_fill htakes text]
            exact .appeared
        | cons segment rest =>
            dsimp only
            rw [along_file (at?_fill htakes text)]
            split
            · exact .slashed
            · exact .blocked
  · cases hnode : disk.root.at? (place ++ [name]) with
    | none =>
        rw [at?_fill_eq_none htakes text hout hnode]
        unfold enter
        dsimp only
        split_ifs
        · exact .vacant _ hout
        · exact .failed _
    | some node =>
        obtain ⟨node', hnode', hface⟩ := exists_at?_fill htakes text hout hnode
        rw [hnode']
        have hon := hrest (by simp [hnode])
        cases node with
        | link target =>
            obtain rfl := Node.eq_of_face_eq_link hface
            unfold enter
            dsimp only
            split_ifs
            · exact .node hout rfl
            · exact .failed _
            · apply hjump
              rfl
            · exact hjump _ _ hplace
        | file | directory | closed =>
            cases node' with
            | link target => cases hface
            | file | directory | closed => exact hon

theorem along_fill (text : String)
    (hjump : ∀ start segments, (disk.root.at? start).isSome →
      Refilling out text (jump start segments) (jump' start segments))
    (segments : List String) (hplace : (disk.root.at? place).isSome ∨ segments ≠ []) :
    Refilling out text (disk.along follow jump place segments)
      ((disk.fill out text).along follow jump' place segments) := by
  induction segments generalizing place with
  | nil => exact along_nil_fill htakes text (hplace.resolve_right fun h => h rfl)
  | cons segment rest ih =>
      cases hnode : disk.root.at? place with
      | none =>
          rw [along_missing hnode]
          by_cases hout : place = out
          · subst hout
            rw [along_file (at?_fill htakes text)]
            exact .blocked
          · rw [along_missing (at?_fill_eq_none htakes text hout hnode)]
            exact .failed _
      | some node =>
          have hhere : (disk.root.at? place).isSome := by simp [hnode]
          cases node with
          | directory entries =>
              obtain ⟨entries', hentries'⟩ := exists_directory_fill htakes text hnode
              rw [along_directory hnode, along_directory hentries']
              split_ifs
              · exact ih (.inl hhere)
              · apply ih
                exact .inl (Node.isSome_at?_dropLast hhere)
              · exact .failed _
              · apply enter_fill htakes text hhere hjump
                intro hname
                exact ih (.inl hname)
          | file content =>
              rw [along_file hnode]
              by_cases hout : place = out
              · subst hout
                rw [along_file (at?_fill htakes text)]
                exact .failed _
              · obtain ⟨node', hnode', hface⟩ := exists_at?_fill htakes text hout hnode
                cases node' with
                | file content =>
                    rw [along_file hnode']
                    exact .failed _
                | _ => cases hface
          | closed =>
              have hout : place ≠ out := ne_of_not_file htakes hnode rfl
              obtain ⟨node', hnode', hface⟩ := exists_at?_fill htakes text hout hnode
              cases node' with
              | closed =>
                  rw [along_closed hnode, along_closed hnode']
                  exact .failed _
              | _ => cases hface
          | link target =>
              have hout : place ≠ out := ne_of_not_file htakes hnode rfl
              obtain ⟨node', hnode', hface⟩ := exists_at?_fill htakes text hout hnode
              cases node' with
              | link target =>
                  rw [along_link hnode, along_link hnode']
                  exact .failed _
              | _ => cases hface

theorem reach_fill (text : String) (links : Nat) (segments : List String)
    (hplace : (disk.root.at? place).isSome ∨ segments ≠ []) :
    Refilling out text (disk.reach follow links place segments)
      ((disk.fill out text).reach follow links place segments) := by
  induction links generalizing place segments with
  | zero =>
      apply along_fill htakes text _ segments hplace
      intro start rest _
      exact .failed _
  | succ links ih =>
      apply along_fill htakes text _ segments hplace
      intro start rest hstart
      exact ih rest (.inl hstart)

theorem goal_fill (text path : String) :
    Refilling out text (disk.goal follow path) ((disk.fill out text).goal follow path) := by
  unfold goal
  split_ifs
  · exact .failed _
  · exact reach_fill htakes text _ _ (.inr (Path.segments_ne_nil path))
  · exact reach_fill htakes text _ _ (.inr (Path.segments_ne_nil path))

/-- No path leads to another directory than before, or to none. -/
theorem isDirectory_fill (text path : String) :
    (disk.fill out text).isDirectory path = disk.isDirectory path := by
  have hgoal : Refilling out text (disk.goal true path) _ := goal_fill htakes text path
  unfold isDirectory node?
  rw [find_eq_found, find_eq_found]
  revert hgoal
  generalize disk.goal true path = before
  generalize (disk.fill out text).goal true path = after
  rintro (_ | _ | ⟨-, hface⟩ | _ | _ | _ | _)
  · rfl
  · rfl
  · rename_i node node'
    cases node <;> cases node' <;> first | rfl | cases hface
  all_goals rfl

/-- A path that leads to a free name leads to the file once it has that name. -/
theorem exists?_fill_iff (text path : String) :
    (disk.fill out text).exists? path = true ↔
      disk.exists? path = true ∨ disk.goal true path = .ok (.vacant out false) := by
  have hgoal : Refilling out text (disk.goal true path) _ := goal_fill htakes text path
  rw [exists?_iff, exists?_iff]
  revert hgoal
  generalize disk.goal true path = before
  generalize (disk.fill out text).goal true path = after
  rintro (_ | _ | ⟨_, _⟩ | ⟨_, hplace⟩ | _ | _ | _) <;> simp [*]

theorem exists_find_fill (text : String) {node : Node} (hplace : place ≠ out)
    (h : disk.find path = .ok (place, node)) :
    ∃ node', (disk.fill out text).find path = .ok (place, node') ∧ node'.face = node.face := by
  have hgoal : Refilling out text (disk.goal true path) _ := goal_fill htakes text path
  rw [find_eq_ok_iff.mp h] at hgoal
  generalize hafter : (disk.fill out text).goal true path = after at hgoal
  cases hgoal with
  | written content => exact absurd rfl hplace
  | node _ hface => exact ⟨_, find_eq_ok_iff.mpr hafter, hface⟩

/-- What can be read elsewhere can still be read. -/
theorem readText_fill (text : String) {node : Node} (hplace : place ≠ out)
    (h : disk.find path = .ok (place, node)) :
    (disk.fill out text).readText path = disk.readText path := by
  obtain ⟨node', hafter, hface⟩ := exists_find_fill htakes text hplace h
  unfold readText
  rw [hafter, h]
  cases node <;> cases node' <;> first | rfl | cases hface
  all_goals rfl

end Fill

theorem Opens.find_fill (h : disk.Opens path place) (text : String) :
    (disk.fill place text).find path = .ok (place, .file (.text text)) := by
  have hgoal : Refilling place text (disk.goal true path) _ := goal_fill h.takes text path
  rw [find_eq_ok_iff]
  generalize (disk.fill place text).goal true path = after at hgoal
  cases h with
  | file content _ h =>
      rw [h] at hgoal
      cases hgoal with
      | written => rfl
      | node hplace => exact absurd rfl hplace
  | free h =>
      rw [h] at hgoal
      cases hgoal with
      | appeared => rfl
      | vacant slash hplace => exact absurd rfl hplace

/-! ## What a written file leaves alone -/

/-- Two disks that show the same at all places but one. -/
structure SameBut (disk after : Disk) (place : List String) : Prop where
  current : after.current = disk.current
  faces {other : List String} (h : other ≠ place) :
    (after.root.at? other).map Node.face = (disk.root.at? other).map Node.face
  reads {path : String} {other : List String} {node : Node} (h : other ≠ place)
    (hfind : disk.find path = .ok (other, node)) : after.readText path = disk.readText path

/-- `after` is `disk` with `text` written to `path`: the path leads to a file that holds just the
text, and everything else is as it was. -/
def Written (disk : Disk) (path text : String) (after : Disk) : Prop :=
  ∃ place, after.find path = .ok (place, .file (.text text)) ∧ disk.SameBut after place

theorem Opens.sameBut (h : disk.Opens path place) (text : String) :
    disk.SameBut (disk.fill place text) place where
  current := rfl
  faces := face_at?_fill h.takes text
  reads := readText_fill h.takes text

theorem written_of_writeText (h : disk.writeText path text = .ok after) :
    disk.Written path text after := by
  obtain ⟨place, hopens, rfl⟩ := writeText_eq_ok_iff.mp h
  exact ⟨place, hopens.find_fill text, hopens.sameBut text⟩

end Disk

end Showcase
