import Mathlib.Tactic.SplitIfs
import Showcase.Proofs.Disk.Descent
import Showcase.Proofs.Disk.Steps

namespace Showcase.Disk

/-!
# Paths that go on

What stands behind the part of a path that leads to a node is followed from that node, with as many
links left as that part has not used up.  So a name below a path leads to what stands under it in
the directory that the path leads to, over whatever links.
-/

variable {disk : Disk} {follow : Bool} {links : Nat} {start place segments : List String}
  {node : Node}

/-- Where a path goes on behind a link if `links` may be followed. -/
def beyond (disk : Disk) (follow : Bool) : Nat → List String → List String → Except DiskFault Goal
  | 0 => fun _ _ => .error .tooManyLinks
  | links + 1 => disk.reach follow links

theorem beyond_succ (disk : Disk) (follow : Bool) (links : Nat) :
    disk.beyond follow (links + 1) = disk.reach follow links := rfl

theorem reach_eq_along (disk : Disk) (follow : Bool) (links : Nat) :
    disk.reach follow links = disk.along follow (disk.beyond follow links) := by
  cases links <;> rfl

/-- Segments that lead to a node can be followed by others. -/
def GoesOn (disk : Disk) (run : Bool → List String → Except DiskFault Goal) (links : Nat)
    (place : List String) : Prop :=
  ∃ left, left ≤ links ∧ ∀ follow rest, rest ≠ [] ∨ follow = true →
    run follow rest = disk.reach follow left place rest

/-- What leads on over a name still leads on over it when more segments come behind. -/
theorem enter_append_of_node {name : String} {entry : Option Node}
    (hbeyond : ∀ start segments place node,
      disk.beyond true links start segments = .ok (.node place node) →
        disk.GoesOn (fun follow rest => disk.beyond follow links start (segments ++ rest)) links
          place)
    (hsegments : disk.along true (disk.beyond true links) (start ++ [name]) segments =
        .ok (.node place node) →
      disk.GoesOn (fun follow rest => disk.along follow (disk.beyond follow links)
        (start ++ [name]) (segments ++ rest)) links place)
    (h : disk.enter true (disk.beyond true links) start name segments entry =
      .ok (.node place node)) :
    disk.GoesOn (fun follow rest =>
      disk.enter follow (disk.beyond follow links) start name (segments ++ rest) entry) links
      place := by
  cases entry with
  | none =>
      unfold enter at h
      dsimp only at h
      split_ifs at h
      cases h
  | some child =>
      cases child with
      | link target =>
          unfold enter at h
          simp only [Bool.not_true, Bool.and_false, Bool.false_eq_true, if_false] at h
          split_ifs at h with htarget habsolute
          all_goals
            obtain ⟨left, hleft, hon⟩ := hbeyond _ _ _ _ h
            refine ⟨left, hleft, ?_⟩
            intro follow rest hrest
            have hfollowed : ((segments ++ rest).isEmpty && !follow) = false := by
              rcases hrest with hrest | rfl
              · simp [hrest]
              · simp
            simp only [enter, hfollowed, Bool.false_eq_true, if_false, htarget, habsolute, if_true]
            rw [← List.append_assoc]
            exact hon follow rest hrest
      | file | directory | closed => exact hsegments h

theorem along_append_of_node
    (hbeyond : ∀ start segments place node,
      disk.beyond true links start segments = .ok (.node place node) →
        disk.GoesOn (fun follow rest => disk.beyond follow links start (segments ++ rest)) links
          place)
    (h : disk.along true (disk.beyond true links) start segments = .ok (.node place node)) :
    disk.GoesOn (fun follow rest =>
      disk.along follow (disk.beyond follow links) start (segments ++ rest)) links place := by
  induction segments generalizing start with
  | nil =>
      unfold along at h
      split at h <;> cases h
      refine ⟨links, Nat.le_refl links, ?_⟩
      intro follow rest _
      rw [reach_eq_along]
      rfl
  | cons segment xs ih =>
      obtain ⟨entries, hstart⟩ := exists_directory_of_along h
      simp only [List.cons_append, along_directory hstart] at h ⊢
      split_ifs at h ⊢
      · exact ih h
      · exact ih h
      · exact enter_append_of_node hbeyond ih h

theorem reach_append (h : disk.reach true links start segments = .ok (.node place node)) :
    disk.GoesOn (fun follow rest => disk.reach follow links start (segments ++ rest)) links
      place := by
  simp only [reach_eq_along] at h ⊢
  induction links generalizing start segments place node with
  | zero =>
      apply along_append_of_node _ h
      intro start segments place node hnone
      cases hnone
  | succ links ih =>
      apply along_append_of_node _ h
      intro start segments place node hnode
      rw [beyond_succ, reach_eq_along] at hnode
      obtain ⟨left, hleft, hon⟩ := ih hnode
      refine ⟨left, Nat.le_succ_of_le hleft, ?_⟩
      intro follow rest hrest
      dsimp only
      rw [beyond_succ, reach_eq_along disk follow links]
      exact hon follow rest hrest

/-! ## The last segment -/

/-- A segment behind others stands in a directory, or behind a free name. -/
def Precedes (before : Except DiskFault Goal) (goal : Goal) : Prop :=
  (∃ place entries, before = .ok (.node place (.directory entries))) ∨
    ∃ place, goal = .vacant place true

theorem along_append_singleton {segment : String} {goal : Goal}
    (hbeyond : ∀ start segments goal,
      disk.beyond true links start (segments ++ [segment]) = .ok goal →
        Precedes (disk.beyond true links start segments) goal)
    (h : disk.along true (disk.beyond true links) start (segments ++ [segment]) = .ok goal) :
    Precedes (disk.along true (disk.beyond true links) start segments) goal := by
  induction segments generalizing start with
  | nil =>
      obtain ⟨entries, hstart⟩ := exists_directory_of_along h
      refine .inl ⟨start, entries, ?_⟩
      unfold along
      rw [hstart]
  | cons first xs ih =>
      obtain ⟨entries, hstart⟩ := exists_directory_of_along h
      simp only [List.cons_append, along_directory hstart] at h ⊢
      split_ifs at h ⊢
      · exact ih h
      · exact ih h
      · unfold enter at h ⊢
        split at h
        · split_ifs at h
          cases h
          refine .inr ⟨start ++ [first], ?_⟩
          simp
        · simp only [Bool.not_true, Bool.and_false, Bool.false_eq_true, if_false] at h ⊢
          split_ifs at h ⊢
          all_goals
            rw [← List.append_assoc] at h
            exact hbeyond _ _ _ h
        · exact ih h

theorem reach_append_singleton {segment : String} {goal : Goal}
    (h : disk.reach true links start (segments ++ [segment]) = .ok goal) :
    Precedes (disk.reach true links start segments) goal := by
  simp only [reach_eq_along] at h ⊢
  induction links generalizing start segments goal with
  | zero =>
      apply along_append_singleton _ h
      intro start segments goal hnone
      cases hnone
  | succ links ih =>
      apply along_append_singleton _ h
      intro start segments goal hgoal
      rw [beyond_succ, reach_eq_along] at hgoal ⊢
      exact ih hgoal

theorem reach_idle {segment : String} {entries : List (String × Node)}
    (hplace : disk.root.at? place = some (.directory entries))
    (hidle : Path.isIdle segment = true) :
    disk.reach follow links place [segment] = .ok (.node place (.directory entries)) := by
  rw [reach_eq_along, along_directory hplace, if_pos hidle, along, hplace]

theorem reach_append_idle {segment : String} {entries : List (String × Node)}
    (hidle : Path.isIdle segment = true)
    (h : disk.reach true links start segments = .ok (.node place (.directory entries))) :
    disk.reach true links start (segments ++ [segment]) =
      .ok (.node place (.directory entries)) := by
  obtain ⟨left, -, hon⟩ := reach_append h
  have hplace : disk.root.at? place = some (.directory entries) := reach_placed _ _ _ _ _ h
  exact (hon true [segment] (.inr rfl)).trans (reach_idle hplace hidle)

/-- A segment that changes nothing can be left out behind a path to a node. -/
theorem reach_of_append_idle {segment : String} (hidle : Path.isIdle segment = true)
    (h : disk.reach true links start (segments ++ [segment]) = .ok (.node place node)) :
    disk.reach true links start segments = .ok (.node place node) := by
  rcases reach_append_singleton h with ⟨above, entries, habove⟩ | ⟨free, hfree⟩
  · rw [reach_append_idle hidle habove] at h
    rw [habove, h]
  · cases hfree

/-! ## Names below a path -/

theorem reach_stem {path : String} (h : disk.find path = .ok (place, node)) :
    path ≠ "" ∧ disk.reach true linkLimit (disk.origin path) (Path.stem path) =
      .ok (.node place node) := by
  obtain ⟨hne, jump, hjump, halong⟩ := along_of_find h
  rw [← hjump] at halong
  refine ⟨hne, ?_⟩
  rcases Path.segments_eq_stem path with hsegments | hsegments <;> rw [hsegments] at halong
  · exact halong
  · exact reach_of_append_idle rfl halong

/-- Where a path in a directory leads, whose segments but the last lead there. -/
theorem goal_of_segments {path last : String} {front : List String} (hpath : path ≠ "")
    (hsegments : Path.segments path = front ++ [last])
    (h : disk.reach true linkLimit (disk.origin path) front = .ok (.node place node)) :
    ∃ left, left ≤ linkLimit ∧
      ∀ follow, disk.goal follow path = disk.reach follow left place [last] := by
  obtain ⟨left, hleft, hon⟩ := reach_append h
  refine ⟨left, hleft, ?_⟩
  intro follow
  rw [goal, if_neg hpath, hsegments]
  exact hon follow [last] (.inl (List.cons_ne_nil last []))

/-- A name in a directory leads to what stands under it. -/
theorem reach_name {name : String} {entries : List (String × Node)}
    (hplace : disk.root.at? place = some (.directory entries)) (hname : Path.IsName name) :
    disk.reach follow links place [name] =
      if longestName < Path.size name then .error .nameTooLong
      else disk.enter follow (disk.beyond follow links) place name [] (entries.lookup name) := by
  have hentry : disk.root.at? (place ++ [name]) = entries.lookup name := by
    rw [Node.at?_append_singleton, hplace]
    rfl
  rw [reach_eq_along, along_directory hplace, hname.isIdle_eq_false, if_neg Bool.false_ne_true,
    if_neg hname.ne_above, hentry]

/-- A name alone is looked up in the current directory. -/
theorem goal_name {name : String} {entries : List (String × Node)}
    (hcurrent : disk.root.at? disk.current = some (.directory entries))
    (hname : Path.IsName name) (hshort : Path.size name ≤ longestName) :
    disk.goal follow name = disk.enter follow (disk.beyond follow linkLimit) disk.current name []
      (entries.lookup name) := by
  rw [goal, if_neg hname.ne_empty, hname.isAbsolute_eq_false, if_neg Bool.false_ne_true,
    Path.segments_of_slash_notMem hname.slash_notMem, reach_name hcurrent hname,
    if_neg (Nat.not_lt.mpr hshort)]

/-- What a name leads to among the entries of the directory at a place, a link not followed. -/
def childGoal (place : List String) (entries : List (String × Node)) (name : String) :
    Except DiskFault Goal :=
  if longestName < Path.size name then .error .nameTooLong
  else
    match entries.lookup name with
    | none => .ok (.vacant (place ++ [name]) false)
    | some child => .ok (.node (place ++ [name]) child)

theorem enter_entry {jump : List String → List String → Except DiskFault Goal} {name : String}
    {entries : List (String × Node)} {child : Node}
    (hplace : disk.root.at? place = some (.directory entries))
    (hchild : entries.lookup name = some child) (hlink : ∀ target, child ≠ .link target) :
    disk.enter follow jump place name [] (some child) = .ok (.node (place ++ [name]) child) := by
  have hon : disk.along follow jump (place ++ [name]) [] = .ok (.node (place ++ [name]) child) := by
    rw [along, Node.at?_append_singleton, hplace, Option.bind_some, Node.child?, hchild]
  cases child with
  | link target => exact absurd rfl (hlink target)
  | file | directory | closed => exact hon

theorem origin_join {base name : String} (hbase : base ≠ "") (hname : Path.IsName name) :
    disk.origin (Path.join base name) = disk.origin base := by
  rw [origin, origin, Path.isAbsolute_join hbase hname]

theorem goal_child {base name : String} {entries : List (String × Node)}
    (h : disk.find base = .ok (place, .directory entries)) (hname : Path.IsName name) :
    disk.goal false (Path.join base name) = childGoal place entries name := by
  have hplace : disk.root.at? place = some (.directory entries) := at?_of_find h
  obtain ⟨hne, hstem⟩ := reach_stem h
  rw [← origin_join hne hname] at hstem
  obtain ⟨left, -, hgoal⟩ :=
    goal_of_segments (Path.join_ne_empty hname) (Path.segments_join hne hname) hstem
  rw [hgoal, reach_name hplace hname, childGoal]
  split_ifs
  · rfl
  · cases hlookup : entries.lookup name with
    | none => rfl
    | some child =>
        cases child with
        | link target => rfl
        | file | directory | closed => exact enter_entry hplace hlookup nofun

end Showcase.Disk
