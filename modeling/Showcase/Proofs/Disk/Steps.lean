import Showcase.Proofs.Disk.Places

namespace Showcase

/-!
# Steps along a path

One segment of a path is followed at a time.  Only a directory lets a path go on, and only a name
in it, with what stands under the name, tells where the next segment begins.
-/

theorem Node.isSome_at?_dropLast {node : Node} {place : List String}
    (h : (node.at? place).isSome) : (node.at? place.dropLast).isSome := by
  rcases List.eq_nil_or_concat place with rfl | ⟨above, name, rfl⟩
  · exact h
  · rw [List.concat_eq_append, at?_append_singleton] at h
    rw [List.concat_eq_append, List.dropLast_concat]
    exact Option.isSome_of_isSome_bind h

namespace Disk

variable {disk : Disk} {follow : Bool} {jump : List String → List String → Except DiskFault Goal}
  {place rest : List String} {segment : String}

theorem along_missing (h : disk.root.at? place = none) :
    disk.along follow jump place (segment :: rest) = .error .missing := by
  unfold along
  rw [h]

theorem along_file {content : Content} (h : disk.root.at? place = some (.file content)) :
    disk.along follow jump place (segment :: rest) = .error .notDirectory := by
  unfold along
  rw [h]

theorem along_closed (h : disk.root.at? place = some .closed) :
    disk.along follow jump place (segment :: rest) = .error .permissionDenied := by
  unfold along
  rw [h]

theorem along_link {target : String} (h : disk.root.at? place = some (.link target)) :
    disk.along follow jump place (segment :: rest) = .error .notDirectory := by
  unfold along
  rw [h]

/-- Where a path goes on from a directory over `name`, under which `entry` stands. -/
def enter (disk : Disk) (follow : Bool)
    (jump : List String → List String → Except DiskFault Goal) (place : List String)
    (name : String) (rest : List String) (entry : Option Node) : Except DiskFault Goal :=
  match entry with
  | none =>
    if rest.all (· = "") then .ok (.vacant (place ++ [name]) (!rest.isEmpty))
    else .error .missing
  | some (.link target) =>
    if rest.isEmpty && !follow then .ok (.node (place ++ [name]) (.link target))
    else if target = "" then .error .missing
    else jump (if Path.isAbsolute target then [] else place) (Path.segments target ++ rest)
  | some _ => disk.along follow jump (place ++ [name]) rest

/-- A segment in a directory is passed over, leads up, or leads on over its name. -/
theorem along_directory {entries : List (String × Node)}
    (h : disk.root.at? place = some (.directory entries)) :
    disk.along follow jump place (segment :: rest) =
      if Path.isIdle segment then disk.along follow jump place rest
      else if segment = ".." then disk.along follow jump place.dropLast rest
      else if longestName < Path.size segment then .error .nameTooLong
      else
        disk.enter follow jump place segment rest (disk.root.at? (place ++ [segment])) := by
  have hentry : disk.root.at? (place ++ [segment]) = entries.lookup segment := by
    rw [Node.at?_append_singleton, h]
    rfl
  rw [hentry, along, h]
  rfl

/-- Only in a directory does a path lead on. -/
theorem exists_directory_of_along {goal : Goal}
    (h : disk.along follow jump place (segment :: rest) = .ok goal) :
    ∃ entries, disk.root.at? place = some (.directory entries) := by
  cases hplace : disk.root.at? place with
  | none =>
      rw [along_missing hplace] at h
      cases h
  | some node =>
      cases node with
      | directory entries => exact ⟨entries, rfl⟩
      | file content =>
          rw [along_file hplace] at h
          cases h
      | closed =>
          rw [along_closed hplace] at h
          cases h
      | link target =>
          rw [along_link hplace] at h
          cases h

end Disk

end Showcase
