import Showcase.Collection.Collect

namespace Showcase

/-!
# How far the failures of a run reach

Whatever a folder holds, loading it ends with a component or with a failure that is not
critical.  The same goes for the options of the scanned directory and for what cannot be
listed in it.  So nothing below a directory that can be scanned ends a tolerant run.
-/

/-- The failure that an outcome is, if it is one. -/
def fault? : Except Fault α → Option Fault
  | .ok _ => none
  | .error fault => some fault

theorem exists_eq_ok_of_isOk {outcome : Except ε α} (h : outcome.isOk = true) :
    ∃ a, outcome = .ok a := by
  cases outcome with
  | ok a => exact ⟨a, rfl⟩
  | error fault => cases h

theorem exists_eq_error_of_isOk {outcome : Except ε α} (h : outcome.isOk = false) :
    ∃ fault, outcome = .error fault := by
  cases outcome with
  | ok a => cases h
  | error fault => exact ⟨fault, rfl⟩

/-- An outcome that is no critical failure. -/
def Confined (outcome : Except Fault α) : Prop :=
  ∀ fault, outcome = .error fault → fault.isCritical = false

theorem Confined.error {fault : Fault} (h : fault.isCritical = false) :
    Confined (.error fault : Except Fault α) := by
  intro other hother
  rw [← Except.error.inj hother]
  exact h

/-- An outcome that is no failure but one that costs its folder: neither a warning nor a critical
failure. -/
def Ordinary (outcome : Except Fault α) : Prop :=
  ∀ fault, outcome = .error fault → fault.severity = .error

namespace Ordinary

theorem ok (a : α) : Ordinary (.ok a : Except Fault α) := fun _ h => nomatch h

theorem error {fault : Fault} (h : fault.severity = .error) :
    Ordinary (.error fault : Except Fault α) := by
  intro other hother
  rw [← Except.error.inj hother]
  exact h

theorem bind {x : Except Fault α} {f : α → Except Fault β} (hx : Ordinary x)
    (hf : ∀ a, Ordinary (f a)) : Ordinary (x >>= f) := by
  cases x with
  | ok a => exact hf a
  | error fault => exact error (hx fault rfl)

theorem confined {outcome : Except Fault α} (h : Ordinary outcome) : Confined outcome := by
  intro fault hfault
  rw [Fault.isCritical, h fault hfault]
  rfl

end Ordinary

/-! ## Loading -/

theorem Disk.firstSource_ordinary (disk : Disk) (candidates : List (Language × String)) :
    Ordinary (disk.firstSource candidates) := by
  induction candidates with
  | nil => exact .ok none
  | cons candidate rest ih =>
      obtain ⟨language, path⟩ := candidate
      unfold firstSource
      split
      · split
        · exact .ok _
        · exact .error rfl
      · exact ih

theorem Disk.source_ordinary (disk : Disk) (base : String) (untypedOnly : Bool) :
    Ordinary (disk.source base untypedOnly) := by
  have hfirst : Ordinary (disk.source? base untypedOnly) := disk.firstSource_ordinary _
  unfold source
  split
  · exact .ok _
  · exact .error rfl
  · rename_i fault hfault
    exact .error (hfirst fault hfault)

namespace Loader

theorem options_ordinary (role : Role) (path : String) (read : Json → Except ShapeFault ρ)
    (empty : ρ) (value : Option Json) : Ordinary (options role path read empty value) := by
  unfold options
  split
  · exact .ok empty
  · split
    · exact .ok _
    · exact .error rfl

theorem entry_ordinary (path : String) (index : Nat) (raw : RawEntry) :
    Ordinary (entry path index raw) := by
  have hoptions := options_ordinary .props path EntryOptions.ofJson .empty raw.options
  unfold entry
  split
  · exact .error rfl
  · split
    · exact .ok _
    · rename_i fault hfault
      exact .error (hoptions fault hfault)

theorem entriesFrom_ordinary (path : String) (index : Nat) (raws : List RawEntry) :
    Ordinary (entriesFrom path index raws) := by
  induction raws generalizing index with
  | nil => exact .ok []
  | cons raw rest ih =>
      unfold entriesFrom
      split
      · rename_i fault hfault
        exact .error (entry_ordinary path index raw fault hfault)
      · split
        · rename_i fault hfault
          exact .error (ih (index + 1) fault hfault)
        · exact .ok _

theorem assemble_ordinary (folder : String) (source : Source) (extracted : Extracted) :
    Ordinary (assemble folder source extracted) := by
  unfold assemble
  split
  · exact .error rfl
  · exact Ordinary.bind (entriesFrom_ordinary _ _ _) fun props =>
      Ordinary.bind (options_ordinary _ _ _ _ _) fun metadata => .ok _

theorem load_ordinary (loader : Loader) (disk : Disk) (folder : String) :
    Ordinary (loader.load disk folder).outcome := by
  have hsource := disk.source_ordinary (Path.join folder loader.configName) loader.untypedOnly
  unfold load
  split
  · rename_i fault hfault
    exact .error (hsource fault hfault)
  · unfold ofSource
    split
    · exact .error rfl
    · exact assemble_ordinary _ _ _

/-- A folder costs at most itself. -/
theorem load_confined (loader : Loader) (disk : Disk) (folder : String) :
    Confined (loader.load disk folder).outcome :=
  (loader.load_ordinary disk folder).confined

theorem globalOfSource_ordinary (source : Source) : Ordinary (globalOfSource source) := by
  unfold globalOfSource
  split
  · exact .error rfl
  · exact options_ordinary _ _ _ _ _

theorem loadGlobal_ordinary (loader : Loader) (disk : Disk) (root : String) :
    Ordinary (loader.loadGlobal disk root) := by
  unfold loadGlobal
  split
  · rename_i fault hfault
    exact .error (disk.firstSource_ordinary _ fault hfault)
  · exact .ok none
  · split
    · exact .ok _
    · rename_i fault hfault
      exact .error (globalOfSource_ordinary _ fault hfault)

theorem loadGlobal_confined (loader : Loader) (disk : Disk) (root : String) :
    Confined (loader.loadGlobal disk root) :=
  (loader.loadGlobal_ordinary disk root).confined

end Loader

/-! ## Listing -/

namespace Walker

variable {walker : Walker} {disk : Disk}

/-- A listing that tells of no critical failure. -/
def Listed.Confined (listed : Listed) : Prop :=
  ∀ u, listed.unreadable? = some u → u.fault.isCritical = false

theorem folderUnlessExcluded_confined (path : String) :
    (walker.folderUnlessExcluded path).Confined := by
  unfold folderUnlessExcluded
  split <;> exact fun u hu => nomatch hu

theorem traversal_confined (path message : String) : (traversal path message).Confined := by
  rintro u ⟨rfl⟩
  rfl

theorem followed_confined (root : List String) (path : String) :
    (walker.followed disk root path).Confined := by
  unfold followed
  split
  · rintro u ⟨rfl⟩
    rfl
  · exact traversal_confined _ _
  · split
    · exact traversal_confined _ _
    · exact folderUnlessExcluded_confined path
  · rintro u ⟨rfl⟩
    rfl
  · exact fun u hu => nomatch hu

theorem list_confined (root : List String) (entry : String × Node) :
    (walker.list disk root entry).Confined := by
  unfold list
  split
  · exact folderUnlessExcluded_confined _
  · exact folderUnlessExcluded_confined _
  · split
    · exact followed_confined root _
    · exact fun u hu => nomatch hu
  · exact fun u hu => nomatch hu

/-- What cannot be listed is no reason to end a run. -/
theorem isCritical_of_mem_unreadable {folders : List String} {unreadable : List Unreadable}
    (h : walker.folders disk = .ok (folders, unreadable)) {u : Unreadable} (hu : u ∈ unreadable) :
    u.fault.isCritical = false := by
  unfold Walker.folders at h
  split at h
  · cases h
  · rename_i listed hlisted
    obtain ⟨-, rfl⟩ := Prod.mk.inj (Except.ok.inj h)
    obtain ⟨outcome, houtcome, hu⟩ := List.mem_filterMap.mp hu
    unfold listings at hlisted
    split at hlisted
    · rename_i place entries hfind
      obtain rfl := Option.some.inj hlisted
      obtain ⟨entry, -, rfl⟩ := List.mem_map.mp houtcome
      exact list_confined place entry u hu
    · obtain rfl := Option.some.inj hlisted
      obtain rfl := List.mem_singleton.mp houtcome
      obtain rfl := Option.some.inj hu
      rfl
    · cases hlisted

/-- A directory can be walked through. -/
theorem exists_folders_of_isDirectory (h : disk.isDirectory walker.root = true) :
    ∃ folders unreadable, walker.folders disk = .ok (folders, unreadable) := by
  unfold Disk.isDirectory Disk.node? at h
  unfold folders listings
  cases hfind : disk.find walker.root with
  | error fault => simp [hfind] at h
  | ok found =>
      obtain ⟨place, node⟩ := found
      cases node with
      | directory entries => exact ⟨_, _, rfl⟩
      | closed => exact ⟨_, _, rfl⟩
      | file _ | link _ => simp [hfind, Node.isDirectory] at h

end Walker

end Showcase
