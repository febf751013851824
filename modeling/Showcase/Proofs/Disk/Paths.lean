import Showcase.Disk.Path

namespace Showcase.Path

/-!
# The last name of a path

A name below any path is the last name of the path that results, however the path above
it is written.
-/

/-- Whether `name` can be the name of an entry in a directory. -/
structure IsName (name : String) : Prop where
  ne_empty : name ≠ ""
  ne_point : name ≠ "."
  ne_above : name ≠ ".."
  slash_notMem : '/' ∉ name.toList

instance (name : String) : Decidable (IsName name) :=
  decidable_of_iff (name ≠ "" ∧ name ≠ "." ∧ name ≠ ".." ∧ '/' ∉ name.toList)
    ⟨fun ⟨h₁, h₂, h₃, h₄⟩ => ⟨h₁, h₂, h₃, h₄⟩, fun ⟨h₁, h₂, h₃, h₄⟩ => ⟨h₁, h₂, h₃, h₄⟩⟩

theorem isAbsolute_eq_false_of_slash_notMem {name : String} (h : '/' ∉ name.toList) :
    isAbsolute name = false := by
  rw [isAbsolute, ← Bool.not_eq_true, String.startsWith_string_iff]
  intro hslash
  exact h (hslash.subset (by simp))

namespace IsName

variable {name : String}

theorem isIdle_eq_false (h : IsName name) : isIdle name = false := by
  simp [isIdle, h.ne_empty, h.ne_point]

theorem isAbsolute_eq_false (h : IsName name) : isAbsolute name = false :=
  isAbsolute_eq_false_of_slash_notMem h.slash_notMem

end IsName

/-! ## Segments -/

theorem segments_ne_nil (path : String) : segments path ≠ [] := by
  simp [segments, List.splitOn_ne_nil]

theorem segments_of_slash_notMem {name : String} (h : '/' ∉ name.toList) :
    segments name = [name] := by
  rw [segments, List.splitOn_eq_singleton h, List.map_singleton, String.ofList_toList]

/-- What follows the last slash is a segment. -/
theorem segments_append_slash (base : String) {name : String} (h : '/' ∉ name.toList) :
    segments (base ++ "/" ++ name) = segments base ++ [name] := by
  have hchars : (base ++ "/" ++ name).toList = base.toList ++ '/' :: name.toList := by
    simp
  rw [segments, hchars, List.splitOn_append_cons_self, List.map_append,
    List.splitOn_eq_singleton h, List.map_singleton, String.ofList_toList, segments]

theorem trimIdle_append_singleton (front : List String) {name : String}
    (h : isIdle name = false) : trimIdle (front ++ [name]) = front ++ [name] := by
  simp [trimIdle, h]

/-! ## Names below a path -/

/-- A path that is put above a name gets a slash unless it has one. -/
theorem join_eq (base : String) {name : String} (h : IsName name) :
    join base name = name ∨ ∃ above, join base name = above ++ "/" ++ name := by
  unfold join
  rw [h.isAbsolute_eq_false, if_neg Bool.false_ne_true]
  split
  · rename_i hbase
    rcases hbase with rfl | hslash
    · exact Or.inl String.empty_append
    · rw [← String.endsWith_toSlice, String.Slice.endsWith_string_iff] at hslash
      obtain ⟨above, habove⟩ := hslash
      refine Or.inr ⟨String.ofList above, ?_⟩
      have hbase : base = String.ofList above ++ "/" := by
        simpa [← String.toList_inj] using habove.symm
      rw [hbase]
  · exact Or.inr ⟨base, rfl⟩

theorem split_of_segments {path name : String} {front : List String} (h : IsName name)
    (hpath : path ≠ "") (hsegments : segments path = front ++ [name]) :
    ∃ rest, (split path).2 = rest ++ [name] := by
  unfold split
  rw [hsegments]
  cases front with
  | nil =>
      refine ⟨[], ?_⟩
      simp [h.ne_empty, h.ne_point]
  | cons first front =>
      rw [List.cons_append]
      split
      · rename_i heq
        rw [if_neg hpath]
        exact ⟨front, (List.cons.inj heq).2.symm⟩
      · rename_i heq
        exact ⟨front, (List.cons.inj heq).2.symm⟩
      · exact ⟨first :: front, rfl⟩

theorem fileName?_of_segments {path name : String} {front : List String} (h : IsName name)
    (hpath : path ≠ "") (hsegments : segments path = front ++ [name]) :
    fileName? path = some name := by
  obtain ⟨rest, hrest⟩ := split_of_segments h hpath hsegments
  rw [fileName?, hrest, trimIdle_append_singleton rest h.isIdle_eq_false, List.getLast?_concat]
  simp [h.ne_above]

theorem fileName?_join (base : String) {name : String} (h : IsName name) :
    fileName? (join base name) = some name := by
  rcases join_eq base h with hjoin | ⟨above, hjoin⟩
  · have hsegments : segments name = [] ++ [name] := segments_of_slash_notMem h.slash_notMem
    rw [hjoin]
    exact fileName?_of_segments h h.ne_empty hsegments
  · rw [hjoin]
    refine fileName?_of_segments h (fun hempty => ?_) (segments_append_slash above h.slash_notMem)
    simpa using congrArg String.toList hempty

/-- The names that are put below a path can be read off the paths that result. -/
theorem filterMap_fileName?_map_join (base : String) {names : List String}
    (h : ∀ name ∈ names, IsName name) :
    (names.map (join base)).filterMap fileName? = names := by
  induction names with
  | nil => rfl
  | cons name rest ih =>
      rw [List.map_cons, List.filterMap_cons, fileName?_join base (h name List.mem_cons_self)]
      exact congrArg (name :: ·) (ih fun other hother => h other (List.mem_cons_of_mem name hother))

end Showcase.Path
