import Mathlib.Data.List.Induction
import Showcase.Proofs.Disk.Continuation

namespace Showcase

/-!
# The directory above a path

A path that ends in a name leads into the directory that the path without the name leads to.  That
directory may be written in other ways, with fewer segments that change nothing.
-/

namespace Path

variable {path name : String} {front : List String}

/-! ## Segments that change nothing -/

theorem trimIdle_append_idle (segments : List String) {segment : String}
    (h : isIdle segment = true) : trimIdle (segments ++ [segment]) = trimIdle segments := by
  simp [trimIdle, h]

theorem mem_of_mem_trimIdle {segments : List String} {segment : String}
    (h : segment ∈ trimIdle segments) : segment ∈ segments := by
  rw [trimIdle, List.mem_reverse] at h
  exact List.mem_reverse.mp ((List.dropWhile_sublist isIdle).mem h)

theorem trimIdle_cons_trimIdle (first : String) (rest : List String) :
    trimIdle (first :: trimIdle rest) = trimIdle (first :: rest) := by
  induction rest using List.reverseRecOn with
  | nil => rfl
  | append_singleton rest segment ih =>
      cases hidle : isIdle segment with
      | true => rw [trimIdle_append_idle rest hidle, ih, ← List.cons_append,
          trimIdle_append_idle (first :: rest) hidle]
      | false => rw [trimIdle_append_singleton rest hidle]

theorem trimIdle_cons_of_not_idle {first : String} (h : isIdle first = false)
    (rest : List String) : trimIdle (first :: rest) = first :: trimIdle rest := by
  induction rest using List.reverseRecOn with
  | nil => exact trimIdle_append_singleton [] h
  | append_singleton rest segment ih =>
      rw [← List.cons_append]
      cases hidle : isIdle segment with
      | true =>
          rw [trimIdle_append_idle rest hidle, trimIdle_append_idle (first :: rest) hidle, ih]
      | false =>
          rw [trimIdle_append_singleton rest hidle, trimIdle_append_singleton _ hidle,
            List.cons_append]

/-! ## Segments and slashes -/

theorem notMem_of_mem_splitOn {c : Char} {cs piece : List Char} (h : piece ∈ cs.splitOn c) :
    c ∉ piece := by
  induction cs generalizing piece with
  | nil =>
      obtain rfl : piece = [] := by simpa using h
      exact List.not_mem_nil
  | cons x xs ih =>
      rw [List.splitOn_cons_eq_if_modifyHead] at h
      split at h
      · rcases List.mem_cons.mp h with rfl | h
        · exact List.not_mem_nil
        · exact ih h
      · rename_i hx
        obtain ⟨first, rest, hsplit⟩ := List.exists_cons_of_ne_nil (List.splitOn_ne_nil c xs)
        rw [hsplit, List.modifyHead_cons] at h
        rcases List.mem_cons.mp h with rfl | h
        · have hfirst : c ∉ first := ih (hsplit ▸ List.mem_cons_self)
          intro hc
          rcases List.mem_cons.mp hc with rfl | hc
          · exact hx (beq_self_eq_true c)
          · exact hfirst hc
        · exact ih (hsplit ▸ List.mem_cons_of_mem first h)

theorem slash_notMem_of_mem_segments {segment : String} (h : segment ∈ segments path) :
    '/' ∉ segment.toList := by
  obtain ⟨piece, hpiece, rfl⟩ := List.mem_map.mp h
  rw [String.toList_ofList]
  exact notMem_of_mem_splitOn hpiece

theorem segments_intercalate {parts : List String} (hne : parts ≠ [])
    (h : ∀ segment ∈ parts, '/' ∉ segment.toList) : segments ("/".intercalate parts) = parts := by
  have hchars : ("/".intercalate parts).toList = ['/'].intercalate (parts.map String.toList) :=
    String.toList_intercalate
  rw [segments, hchars, List.splitOn_intercalate]
  · simp [Function.comp_def]
  · intro piece hpiece
    obtain ⟨segment, hsegment, rfl⟩ := List.mem_map.mp hpiece
    exact h segment hsegment
  · simpa using hne

/-- A path is absolute if it begins with an empty segment that others follow. -/
theorem isAbsolute_iff : isAbsolute path = true ↔ ∃ rest, rest ≠ [] ∧ segments path = "" :: rest := by
  have hslash : isAbsolute path = true ↔ ∃ cs, path.toList = '/' :: cs := by
    rw [isAbsolute, String.startsWith_string_iff]
    constructor
    · rintro ⟨cs, hcs⟩
      exact ⟨cs, hcs.symm⟩
    · rintro ⟨cs, hcs⟩
      exact ⟨cs, hcs.symm⟩
  rw [hslash, segments]
  cases path.toList with
  | nil => simp
  | cons c cs =>
      rw [List.splitOn_cons_eq_if_modifyHead]
      obtain ⟨first, rest, hsplit⟩ := List.exists_cons_of_ne_nil (List.splitOn_ne_nil '/' cs)
      by_cases hc : c = '/'
      · simp [hc, hsplit]
      · simp [hc, hsplit, String.ext_iff]

/-! ## Paths that end in a name -/

/-- The directory above a path, the current one if none is written. -/
def directory (path : String) : String :=
  match parent? path with
  | none => "."
  | some parent => if parent = "" then "." else parent

theorem segments_build {start : String} {rest : List String} (hrest : rest ≠ [])
    (h : ∀ segment ∈ start :: rest, '/' ∉ segment.toList) :
    segments (build (some start) rest) = start :: rest := by
  have hbuild : build (some start) rest = "/".intercalate (start :: rest) := by
    rw [String.intercalate_cons_of_ne_nil hrest]
    cases rest with
    | nil => exact absurd rfl hrest
    | cons first rest =>
        unfold build
        split <;> simp_all
  rw [hbuild]
  exact segments_intercalate (List.cons_ne_nil start rest) h

theorem ne_empty_of_segments (h : IsName name) (hsegments : segments path = front ++ [name]) :
    path ≠ "" := by
  rintro rfl
  have hempty : segments "" = [""] := by decide +kernel
  have hlast := congrArg List.getLast? (hempty.symm.trans hsegments)
  rw [List.getLast?_concat] at hlast
  exact h.ne_empty (Option.some.inj hlast).symm

theorem split_of_segments_cons {first : String} {rest : List String} (hpath : path ≠ "")
    (h : segments path = first :: rest) :
    split path = if isIdle first then (some first, rest) else (none, first :: rest) := by
  unfold split
  rw [h]
  split
  · rename_i heq
    obtain ⟨rfl, rfl⟩ := List.cons.inj heq
    rw [if_neg hpath]
    rfl
  · rename_i heq
    obtain ⟨rfl, rfl⟩ := List.cons.inj heq
    rfl
  · rename_i hempty hpoint
    have hidle : isIdle first = false := by
      have hfirst : first ≠ "" := fun heq => hempty rest (by rw [heq])
      have hsecond : first ≠ "." := fun heq => hpoint rest (by rw [heq])
      simp [isIdle, hfirst, hsecond]
    rw [hidle]
    rfl

theorem parent?_of_split {start : Option String} {rest : List String} (h : IsName name)
    (hsplit : split path = (start, rest ++ [name])) :
    parent? path = some (build start (trimIdle rest)) := by
  have htrim := trimIdle_append_singleton rest h.isIdle_eq_false
  unfold parent?
  rw [hsplit]
  dsimp only
  rw [htrim]
  split
  · simp_all
  · simp_all
  · rw [List.dropLast_concat]

theorem parent?_of_segments_singleton (h : IsName name) (hsegments : segments path = [name]) :
    parent? path = some "" := by
  have hpath : path ≠ "" := ne_empty_of_segments h (hsegments.trans (List.nil_append [name]).symm)
  have hsplit := split_of_segments_cons hpath hsegments
  rw [h.isIdle_eq_false, if_neg Bool.false_ne_true, ← List.nil_append [name]] at hsplit
  exact parent?_of_split h hsplit

/-- A name alone has nothing written above it. -/
theorem parent?_of_isName (h : IsName name) : parent? name = some "" :=
  parent?_of_segments_singleton h (segments_of_slash_notMem h.slash_notMem)

theorem segments_build_idle {start : String} (hstart : isIdle start = true) {rest : List String}
    (hrest : ∀ segment ∈ rest, '/' ∉ segment.toList) :
    ∃ others, segments (build (some start) rest) = start :: others ∧
      (start = "" → others ≠ []) ∧ trimIdle (start :: others) = trimIdle (start :: rest) := by
  have hcases : start = "" ∨ start = "." := by simpa [isIdle] using hstart
  by_cases hempty : rest = []
  · subst hempty
    rcases hcases with rfl | rfl
    · exact ⟨[""], by decide +kernel, fun _ => List.cons_ne_nil _ _, by decide +kernel⟩
    · exact ⟨[], by decide +kernel, fun h => absurd h (by decide), rfl⟩
  · refine ⟨rest, segments_build hempty ?_, fun _ => hempty, rfl⟩
    rw [List.forall_mem_cons]
    refine ⟨?_, hrest⟩
    rcases hcases with rfl | rfl <;> decide

/-- The path above a name begins as the path does. -/
theorem exists_parent?_of_segments {first : String} {rest : List String} (h : IsName name)
    (hsegments : segments path = first :: (rest ++ [name])) :
    ∃ parent others, parent? path = some parent ∧ segments parent = first :: others ∧
      (first = "" → others ≠ []) ∧ trimIdle (first :: others) = trimIdle (first :: rest) := by
  have hpath : path ≠ "" := ne_empty_of_segments h (hsegments.trans (List.cons_append ..).symm)
  have hslash : ∀ segment ∈ first :: trimIdle rest, '/' ∉ segment.toList := by
    intro segment hsegment
    have hmem : segment ∈ segments path := by
      rw [hsegments]
      rcases List.mem_cons.mp hsegment with rfl | hsegment
      · exact List.mem_cons_self
      · exact List.mem_cons_of_mem _ (List.mem_append_left _ (mem_of_mem_trimIdle hsegment))
    exact slash_notMem_of_mem_segments hmem
  have hsplit := split_of_segments_cons hpath hsegments
  cases hfirst : isIdle first with
  | true =>
      rw [hfirst, if_pos rfl] at hsplit
      obtain ⟨others, hothers, hne, htrim⟩ :=
        segments_build_idle hfirst (List.forall_mem_cons.mp hslash).2
      rw [trimIdle_cons_trimIdle] at htrim
      exact ⟨_, others, parent?_of_split h hsplit, hothers, hne, htrim⟩
  | false =>
      rw [hfirst, if_neg Bool.false_ne_true, ← List.cons_append] at hsplit
      have hne : first ≠ "" := by
        rintro rfl
        cases hfirst
      refine ⟨_, trimIdle rest, parent?_of_split h hsplit, ?_, fun heq => absurd heq hne,
        trimIdle_cons_trimIdle first rest⟩
      rw [trimIdle_cons_of_not_idle hfirst]
      exact segments_intercalate (List.cons_ne_nil _ _) hslash

/-- The directory above a path begins as the path does, and goes on as the path without its name
does. -/
theorem segments_directory (h : IsName name) (hsegments : segments path = front ++ [name]) :
    directory path ≠ "" ∧ isAbsolute (directory path) = isAbsolute path ∧
      trimIdle (segments (directory path)) = trimIdle front := by
  cases front with
  | nil =>
      have hdirectory : directory path = "." := by
        rw [directory, parent?_of_segments_singleton h hsegments]
        rfl
      have hrelative : isAbsolute path = false := by
        rw [← Bool.not_eq_true, isAbsolute_iff]
        rintro ⟨rest, -, hrest⟩
        rw [hsegments] at hrest
        exact h.ne_empty (List.cons.inj hrest).1
      rw [hdirectory, hrelative]
      decide +kernel
  | cons first rest =>
      obtain ⟨parent, others, hparent, hsegments', hothers, htrim⟩ :=
        exists_parent?_of_segments h hsegments
      have hne : parent ≠ "" := by
        rintro rfl
        have hempty : segments "" = [""] := by decide +kernel
        rw [hempty] at hsegments'
        obtain ⟨hfirst, hnil⟩ := List.cons.inj hsegments'
        exact hothers hfirst.symm hnil.symm
      have hdirectory : directory path = parent := by
        rw [directory, hparent]
        exact if_neg hne
      refine ⟨hdirectory ▸ hne, ?_, ?_⟩
      · rw [hdirectory, Bool.eq_iff_iff, isAbsolute_iff, isAbsolute_iff, hsegments, hsegments']
        constructor
        · rintro ⟨_, _, heq⟩
          obtain ⟨rfl, _⟩ := List.cons.inj heq
          exact ⟨rest ++ [name], by simp, rfl⟩
        · rintro ⟨_, _, heq⟩
          obtain ⟨rfl, _⟩ := List.cons.inj heq
          exact ⟨others, hothers rfl, rfl⟩
      · rw [hdirectory, hsegments']
        exact htrim

end Path

namespace Disk

variable {disk : Disk} {path name : String} {front place : List String}
  {entries : List (String × Node)}

theorem reach_trimIdle_iff {links : Nat} {start segments : List String} :
    disk.reach true links start (Path.trimIdle segments) = .ok (.node place (.directory entries)) ↔
      disk.reach true links start segments = .ok (.node place (.directory entries)) := by
  induction segments using List.reverseRecOn with
  | nil => rfl
  | append_singleton segments segment ih =>
      cases hidle : Path.isIdle segment with
      | true =>
          rw [Path.trimIdle_append_idle segments hidle, ih]
          exact ⟨reach_append_idle hidle, reach_of_append_idle hidle⟩
      | false => rw [Path.trimIdle_append_singleton segments hidle]

/-- The directory above a path is the one that the path leads through last. -/
theorem find_directory_iff (h : Path.IsName name)
    (hsegments : Path.segments path = front ++ [name]) :
    disk.find (Path.directory path) = .ok (place, .directory entries) ↔
      disk.reach true linkLimit (disk.origin path) front =
        .ok (.node place (.directory entries)) := by
  obtain ⟨hne, habsolute, htrim⟩ := Path.segments_directory h hsegments
  rw [find_eq_ok_iff, goal, if_neg hne, habsolute, ← reach_trimIdle_iff, htrim, reach_trimIdle_iff]
  rfl

end Disk

end Showcase
