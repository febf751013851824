import Mathlib.Data.List.Basic
import Showcase.Proofs.Collection.Isolation
import Showcase.Proofs.Folder.Entries

namespace Showcase

/-!
# Accounts of folders

The results of a tolerant run account for everything that was listed: each folder is there
once, as a component or as an error, in the order of the listing.  Since loading reads
nothing but the folder itself, other contents in one folder change its own account only.
-/

/-- What the results tell of the scanned directory and of the folders listed in it. -/
structure Results.Accounts (results : Results) (collector : Collector) (disk : Disk)
    (folders : List String) (unreadable : List Unreadable) : Prop where
  root : results.root = collector.walker.root
  global : results.global = collector.global? disk
  components : results.components =
    folders.filterMap fun folder => (collector.loader.load disk folder).outcome.toOption
  errors : results.errors =
    unreadable.map (fun u => .ofFault u.path u.fault) ++
      (fault? (collector.loader.loadGlobal disk collector.walker.root)).toList.map
        (.ofFault collector.walker.root) ++
      folders.filterMap fun folder =>
        (fault? (collector.loader.load disk folder).outcome).map (.ofFault folder)
  counted : results.Counted

/-- Two results that differ at most in what they tell of one folder, and in their counts. -/
structure Results.SameApart (folder : String) (results other : Results) : Prop where
  root : other.root = results.root
  global : other.global = results.global
  generatedAt : other.generatedAt = results.generatedAt
  components : other.components.filter (·.folder ≠ folder) =
    results.components.filter (·.folder ≠ folder)
  errors : other.errors.filter (·.folder ≠ folder) = results.errors.filter (·.folder ≠ folder)

namespace Loader

theorem folder_eq_of_assemble {folder : String} {source : Source} {extracted : Extracted}
    {component : FolderOptions} (h : assemble folder source extracted = .ok component) :
    component.folder = folder := by
  obtain ⟨_, _, _, -, -, -, rfl⟩ := exists_of_assemble h
  rfl

theorem folder_eq_of_load {loader : Loader} {disk : Disk} {folder : String}
    {component : FolderOptions} (h : (loader.load disk folder).outcome = .ok component) :
    component.folder = folder := by
  unfold load at h
  split at h
  · cases h
  · unfold ofSource at h
    split at h
    · cases h
    · exact folder_eq_of_assemble h

theorem filter_load_self (loader : Loader) (disk : Disk) (folder : String) :
    ((loader.load disk folder).outcome.toOption).filter (fun c => decide (c.folder ≠ folder)) =
      none := by
  cases hload : (loader.load disk folder).outcome with
  | error fault => rfl
  | ok component => simp [Except.toOption, Option.filter, folder_eq_of_load hload]

end Loader

/-- What is kept of the images of two functions agrees if it agrees at every item. -/
theorem filter_filterMap_congr {items : List α} {f g : α → Option β} {keep : β → Bool}
    (h : ∀ a ∈ items, (f a).filter keep = (g a).filter keep) :
    (items.filterMap f).filter keep = (items.filterMap g).filter keep := by
  rw [List.filter_filterMap, List.filter_filterMap]
  exact List.filterMap_congr h

namespace Collector

variable {collector : Collector} {disk : Disk} {folders : List String}
  {unreadable : List Unreadable}

theorem filterMap_error?_unreadable :
    (unreadable.map fun u => ((u.path, .error u.fault) : Attempt)).filterMap Attempt.error? =
      unreadable.map fun u => .ofFault u.path u.fault := by
  rw [List.filterMap_map, ← List.filterMap_eq_map]
  rfl

theorem filterMap_error?_globalAttempts :
    (collector.globalAttempts disk).filterMap Attempt.error? =
      (fault? (collector.loader.loadGlobal disk collector.walker.root)).toList.map
        (.ofFault collector.walker.root) := by
  unfold globalAttempts
  split <;> rename_i hglobal <;> rw [hglobal] <;> rfl

theorem filterMap_component?_earlyAttempts :
    (collector.earlyAttempts disk unreadable).filterMap Attempt.component? = [] := by
  rw [earlyAttempts, List.filterMap_append, List.filterMap_map]
  unfold globalAttempts
  split <;> simp [Attempt.component?, Function.comp_def, Except.toOption]

/-- Everything that is listed ends up in the results. -/
theorem tolerated_accounts (clock : Clock) :
    (collector.tolerated disk clock folders unreadable).Accounts collector disk folders
      unreadable := by
  let start : Results :=
    { Results.start collector.walker.root clock.now with global := collector.global? disk }
  have hstart : start.Counted := ⟨rfl, rfl, rfl, rfl⟩
  have hcounted := hstart.foldl_add
    (collector.earlyAttempts disk unreadable ++ collector.folderAttempts disk folders)
  constructor
  · exact Results.foldl_add_preserves start _ Results.add_root
  · exact Results.foldl_add_preserves start _ Results.add_global
  · refine (Results.foldl_add_append start _ Results.add_components).trans ?_
    rw [List.filterMap_append, filterMap_component?_earlyAttempts, folderAttempts,
      List.filterMap_map]
    rfl
  · refine (Results.foldl_add_append start _ Results.add_errors).trans ?_
    rw [List.filterMap_append, earlyAttempts, List.filterMap_append, filterMap_error?_unreadable,
      filterMap_error?_globalAttempts, folderAttempts, List.filterMap_map]
    rfl
  · exact ⟨hcounted.components, hcounted.failedFolders, hcounted.totalFolders,
      hcounted.propsEntries⟩

theorem tolerated_generatedAt (clock : Clock) :
    (collector.tolerated disk clock folders unreadable).generatedAt = clock.now :=
  Results.foldl_add_preserves _ _ Results.add_generatedAt

end Collector

namespace Disk.Refilled

variable {disk : Disk} {collector : Collector} {name : String} {place : List String}
  {entries old new : List (String × Node)}

/-- A listed folder is the one with other contents, or it is loaded as before. -/
theorem eq_or_load_eq (h : disk.Refilled collector.walker.root place entries name old new)
    (hdisk : disk.root.WellFormed) (hconfig : '/' ∉ collector.loader.configName.toList)
    {folder : String}
    (hfolder : folder ∈ (collector.walker.names entries).map (Path.join collector.walker.root)) :
    folder = Path.join collector.walker.root name ∨
      collector.loader.load (disk.refill (place ++ [name]) new) folder =
        collector.loader.load disk folder := by
  obtain ⟨other, hother, rfl⟩ := List.mem_map.mp hfolder
  have hname : Path.IsName other :=
    Walker.isName_of_mem_names (wellFormed_of_find hdisk h.find) hother
  by_cases heq : other = name
  · exact .inl (by rw [heq])
  · exact .inr (h.load_sibling hconfig hname heq)

theorem sameApart_tolerated
    (h : disk.Refilled collector.walker.root place entries name old new)
    (hdisk : disk.root.WellFormed) (hconfig : '/' ∉ collector.loader.configName.toList)
    (clock : Clock) :
    let folders := (collector.walker.names entries).map (Path.join collector.walker.root)
    (collector.tolerated disk clock folders []).SameApart
      (Path.join collector.walker.root name)
      (collector.tolerated (disk.refill (place ++ [name]) new) clock folders []) := by
  intro folders
  have hbefore : (collector.tolerated disk clock folders []).Accounts collector disk folders [] :=
    Collector.tolerated_accounts clock
  have hafter : (collector.tolerated (disk.refill (place ++ [name]) new) clock folders []).Accounts
      collector (disk.refill (place ++ [name]) new) folders [] :=
    Collector.tolerated_accounts clock
  have hglobal := h.loadGlobal_refill hconfig (h.isName hdisk)
  constructor
  · rw [hafter.root, hbefore.root]
  · rw [hafter.global, hbefore.global, Collector.global?, Collector.global?, hglobal]
  · rw [Collector.tolerated_generatedAt, Collector.tolerated_generatedAt]
  · rw [hafter.components, hbefore.components]
    refine filter_filterMap_congr fun folder hfolder => ?_
    rcases h.eq_or_load_eq hdisk hconfig hfolder with rfl | hload
    · -- What the changed folder tells is left out on both sides.
      rw [Loader.filter_load_self, Loader.filter_load_self]
    · rw [hload]
  · rw [hafter.errors, hbefore.errors, hglobal, List.filter_append]
    conv_rhs => rw [List.filter_append]
    refine congrArg _ (filter_filterMap_congr fun folder hfolder => ?_)
    rcases h.eq_or_load_eq hdisk hconfig hfolder with rfl | hload
    · simp [Option.filter_map, FolderError.ofFault, Function.comp_def]
    · rw [hload]

end Disk.Refilled

namespace Collector

/-- The results of a tolerant run account for every folder that is listed.  Where there are
no links and the configured name stays in its directory, other contents in one folder change
nothing but what the results tell of that folder. -/
theorem collect_accounts_apart {settings : Settings} {collector : Collector} {disk : Disk}
    (hcollector : ofSettings settings = .ok collector) (htolerant : settings.failFast = false)
    (hdirectory : disk.isDirectory settings.scanPath = true) :
    ∃ folders unreadable, collector.walker.folders disk = .ok (folders, unreadable) ∧
      (∀ clock parallel, ∃ results,
        (collector.collect disk clock parallel).outcome = .ok results ∧
          results.Accounts collector disk folders unreadable) ∧
      ∀ place entries name old new, disk.root.WellFormed →
        disk.Refilled settings.scanPath place entries name old new →
        '/' ∉ settings.configName.toList →
        collector.walker.folders (disk.refill (place ++ [name]) new) = .ok (folders, []) ∧
          ∀ clock parallel, ∃ results results',
            (collector.collect disk clock parallel).outcome = .ok results ∧
              (collector.collect (disk.refill (place ++ [name]) new) clock parallel).outcome =
                .ok results' ∧
              results.SameApart (Path.join settings.scanPath name) results' := by
  obtain ⟨rfl, hroot, hconfigName⟩ := fields_of_ofSettings hcollector
  rw [← hroot] at hdirectory
  obtain ⟨folders, unreadable, hfolders⟩ := Walker.exists_folders_of_isDirectory hdirectory
  refine ⟨folders, unreadable, hfolders, fun clock parallel => ?_, ?_⟩
  · exact ⟨_, collect_outcome_of_tolerant htolerant hfolders clock parallel,
      tolerated_accounts clock⟩
  · intro place entries name old new hdisk hrefilled hconfig
    rw [← hroot] at hrefilled ⊢
    rw [← hconfigName] at hconfig
    obtain ⟨hbefore, hafter⟩ := hrefilled.folders_refill hdisk
    obtain ⟨rfl, -⟩ := Prod.mk.inj (Except.ok.inj (hfolders.symm.trans hbefore))
    refine ⟨hafter, fun clock parallel => ?_⟩
    exact ⟨_, _, collect_outcome_of_tolerant htolerant hbefore clock parallel,
      collect_outcome_of_tolerant htolerant hafter clock parallel,
      hrefilled.sameApart_tolerated hdisk hconfig clock⟩

namespace Neighbours

/-- A description that is no text. -/
def unreadable : List (String × Node) := [("readme.js", .file (.binary [0xFF]))]

/-- Two folders, one without a description. -/
def entries : List (String × Node) := [("button", .directory []), ("card", .directory unreadable)]

def disk : Disk := ⟨.directory entries, []⟩

def scanRoot (configName : String) : Settings :=
  { Settings.default with scanPath := "/", configName, excludePatterns := [] }

def collector (configName : String) : Collector :=
  ⟨scanRoot configName, ⟨"/", [], false⟩, ⟨configName, false⟩⟩

theorem find_slash (entries : List (String × Node)) :
    (Disk.mk (.directory entries) []).find "/" = .ok ([], .directory entries) := by
  have hsegments : Path.segments "/" = ["", ""] := by decide +kernel
  have habsolute : Path.isAbsolute "/" = true := by decide +kernel
  simp [Disk.find, Disk.goal, Disk.linkLimit, Disk.reach, Disk.along, Node.at?, Path.isIdle,
    hsegments, habsolute]

theorem disk_wellFormed : disk.root.WellFormed := by
  have hbutton : (Node.plant (.directory []) ["button"] (.directory [])).WellFormed :=
    Node.wellFormed_empty.plant (by decide +kernel) Node.wellFormed_empty
  have hcard : (Node.plant (.file (.binary [0xFF])) ["card", "readme.js"]
      (.directory [("button", .directory [])])).WellFormed :=
    (Node.WellFormed.file _).plant (by decide +kernel) hbutton
  exact hcard

theorem unreadable_linkFree : (Node.directory unreadable).LinkFree := by
  refine .directory fun entry hentry => ?_
  obtain rfl := List.mem_singleton.mp hentry
  exact .file _

theorem disk_linkFree : disk.root.LinkFree := by
  refine .directory fun entry hentry => ?_
  simp only [entries, List.mem_cons, List.not_mem_nil, or_false] at hentry
  rcases hentry with rfl | rfl
  · exact .directory fun entry hentry => nomatch hentry
  · exact unreadable_linkFree

theorem refilled : disk.Refilled "/" [] entries "button" [] unreadable where
  linkFree := disk_linkFree
  linkFree_new := unreadable_linkFree
  find := find_slash entries
  lookup := rfl
  isDirectory := Disk.isDirectory_of_find
    (find_slash (Node.setEntry "button" (.directory unreadable) entries))

theorem names_entries : Walker.names ⟨"/", [], false⟩ entries = ["button", "card"] := by
  have hsorted : entries.Pairwise fun a b => Walker.nameLe a b = true := by
    decide +kernel
  rw [Walker.names, List.mergeSort_of_pairwise hsorted]
  decide +kernel

end Neighbours

open Neighbours in
theorem collect_accounts_apart_neighbours :
    ofSettings (scanRoot "readme") = .ok (collector "readme") ∧
      (scanRoot "readme").failFast = false ∧
      disk.isDirectory (scanRoot "readme").scanPath = true ∧
      disk.root.WellFormed ∧ disk.Refilled "/" [] entries "button" [] unreadable ∧
      '/' ∉ (scanRoot "readme").configName.toList ∧
      ∀ clock parallel, ∃ results results',
        ((collector "readme").collect disk clock parallel).outcome = .ok results ∧
          ((collector "readme").collect (disk.refill ["button"] unreadable) clock
            parallel).outcome = .ok results' ∧
          results.SameApart "/button" results' := by
  have hdirectory : disk.isDirectory "/" = true := Disk.isDirectory_of_find (find_slash entries)
  have hslash : '/' ∉ (scanRoot "readme").configName.toList := by decide +kernel
  have hpath : Path.join "/" "button" = "/button" := by decide +kernel
  have hcollector : ofSettings (scanRoot "readme") = .ok (collector "readme") := rfl
  obtain ⟨_, _, -, -, hapart⟩ := collect_accounts_apart hcollector rfl hdirectory
  obtain ⟨-, hruns⟩ := hapart [] entries "button" [] unreadable disk_wellFormed refilled hslash
  rw [← hpath]
  exact ⟨hcollector, rfl, hdirectory, disk_wellFormed, refilled, hslash, hruns⟩

open Neighbours in
/-- A configured name with a slash reaches into a folder: what stands there is then the
description of the scanned directory, too. -/
theorem exists_folder_not_apart :
    ¬ ∀ (settings : Settings) (collector : Collector) (disk : Disk) (place : List String)
        (entries : List (String × Node)) (name : String) (old new : List (String × Node)),
      ofSettings settings = .ok collector → settings.failFast = false →
      disk.root.WellFormed → disk.Refilled settings.scanPath place entries name old new →
      ∀ clock parallel, ∃ results results',
        (collector.collect disk clock parallel).outcome = .ok results ∧
          (collector.collect (disk.refill (place ++ [name]) new) clock parallel).outcome =
            .ok results' ∧
          results.SameApart (Path.join settings.scanPath name) results' := by
  intro hall
  obtain ⟨results, results', hbefore, hafter, hapart⟩ :=
    hall (scanRoot "button/readme") (collector "button/readme") disk [] entries "button" []
      unreadable rfl rfl disk_wellFormed refilled ⟨.epoch, 0⟩ Schedule.inOrder
  have hrefilled : disk.Refilled (collector "button/readme").walker.root [] entries "button" []
      unreadable := refilled
  obtain ⟨hfolders, hfolders'⟩ := hrefilled.folders_refill disk_wellFormed
  have hnames : (collector "button/readme").walker.names entries = ["button", "card"] :=
    names_entries
  rw [hnames] at hfolders hfolders'
  rw [collect_outcome_of_tolerant rfl hfolders] at hbefore
  rw [collect_outcome_of_tolerant rfl hfolders'] at hafter
  obtain rfl := Except.ok.inj hbefore
  obtain rfl := Except.ok.inj hafter
  -- The scanned directory has an error afterwards that it had not before.
  have hlength := congrArg List.length hapart.errors
  revert hlength
  decide +kernel

end Collector

end Showcase
