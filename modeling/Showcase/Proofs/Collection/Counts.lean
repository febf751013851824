import Mathlib.Data.List.Sort
import Showcase.Proofs.Collection.Accounts

namespace Showcase

/-!
# Counts of folders

A folder of a component is counted when it is listed or when it could not be looked at, and
as failed when it could not be looked at or loaded.  The scanned directory is counted along
with them when its own description cannot be loaded, so the counts of a run are those of the
folders only where that description is absent or in order.
-/

/-! ## Other descriptions in the scanned directory -/

namespace Node

theorem at?_put {node old new : Node} {place : List String} (h : node.at? place = some old) :
    (node.put place new).at? place = some new := by
  induction place generalizing node with
  | nil => cases node <;> rfl
  | cons first rest ih =>
      obtain ⟨child, hchild, hrest⟩ := Option.bind_eq_some_iff.mp h
      cases node with
      | directory siblings =>
          have hlookup : siblings.lookup first = some child := hchild
          simp only [put, hlookup, at?, child?, lookup_setEntry, if_true, Option.bind_some]
          exact ih hrest
      | _ => cases hchild

theorem WellFormed.lookup_of_mem {entries : List (String × Node)} {entry : String × Node}
    (h : (Node.directory entries).WellFormed) (hentry : entry ∈ entries) :
    entries.lookup entry.1 = some entry.2 := by
  have hnodup := h.nodup_names
  clear h
  induction entries with
  | nil => cases hentry
  | cons first rest ih =>
      obtain ⟨key, value⟩ := first
      rw [List.map_cons, List.nodup_cons] at hnodup
      rcases List.mem_cons.mp hentry with rfl | hrest
      · simp
      · have hmem : entry.1 ∈ rest.map Prod.fst := List.mem_map_of_mem hrest
        have hne : entry.1 ≠ key := by
          intro hkey
          exact hnodup.1 (hkey ▸ hmem)
        rw [List.lookup_cons, beq_false_of_ne hne]
        exact ih hrest hnodup.2

end Node

/-- The scanned directory with other entries, where at most its descriptions have been
written, changed or removed. -/
structure Disk.Redescribed (disk : Disk) (path configName : String) (place : List String)
    (entries new : List (String × Node)) : Prop where
  linkFree : disk.root.LinkFree
  wellFormed : disk.root.WellFormed
  wellFormed_new : (Node.directory new).WellFormed
  find : disk.find path = .ok (place, .directory entries)
  isDirectory : (disk.refill place new).isDirectory path = true
  others (name : String) (h : ∀ language, name ≠ Language.path configName language) :
    new.lookup name = entries.lookup name
  description (language : Language) (node : Node)
    (h : entries.lookup (language.path configName) = some node ∨
      new.lookup (language.path configName) = some node) : node.isFile = true

namespace Disk.Redescribed

variable {disk : Disk} {path configName : String} {place : List String}
  {entries new : List (String × Node)}

theorem wellFormed_entries (h : disk.Redescribed path configName place entries new) :
    (Node.directory entries).WellFormed := wellFormed_of_find h.wellFormed h.find

/-- A subdirectory is no description, so it is there before and after. -/
theorem lookup_eq_of_isDirectory (h : disk.Redescribed path configName place entries new)
    {name : String} {node : Node} (hdirectory : node.isDirectory = true)
    (hlookup : entries.lookup name = some node ∨ new.lookup name = some node) :
    new.lookup name = entries.lookup name := by
  apply h.others
  rintro language rfl
  have hfile := h.description language node hlookup
  cases node <;> cases hfile
  cases hdirectory

theorem isSubdirectory_iff (h : disk.Redescribed path configName place entries new)
    (name : String) :
    Walker.IsSubdirectory new name ↔ Walker.IsSubdirectory entries name := by
  constructor
  · rintro ⟨node, hmem, hdirectory⟩
    have hnew := h.wellFormed_new.lookup_of_mem hmem
    have hsame := h.lookup_eq_of_isDirectory hdirectory (.inr hnew)
    exact ⟨node, Node.mem_of_child? (hsame.symm.trans hnew), hdirectory⟩
  · rintro ⟨node, hmem, hdirectory⟩
    have hold := h.wellFormed_entries.lookup_of_mem hmem
    have hsame := h.lookup_eq_of_isDirectory hdirectory (.inl hold)
    exact ⟨node, Node.mem_of_child? (hsame.trans hold), hdirectory⟩

theorem names_eq (h : disk.Redescribed path configName place entries new) (walker : Walker) :
    walker.names new = walker.names entries := by
  have hnew := walker.names_pairwise h.wellFormed_new
  have hold := walker.names_pairwise h.wellFormed_entries
  have hasymm : Std.Antisymm fun a b => Path.bytes a < Path.bytes b :=
    ⟨fun a b hab hba => absurd hba (List.lt_asymm hab)⟩
  refine hnew.eq_of_mem_iff hold fun name => ?_
  rw [Walker.mem_names, Walker.mem_names, h.isSubdirectory_iff]

theorem linkFree_refill (h : disk.Redescribed path configName place entries new) :
    (disk.refill place new).root.LinkFree := by
  refine h.linkFree.put (.directory fun entry hentry => ?_) place
  have hnew := h.wellFormed_new.lookup_of_mem hentry
  by_cases hname : ∃ language, entry.1 = Language.path configName language
  · obtain ⟨language, hlanguage⟩ := hname
    have hfile := h.description language entry.2 (.inr (hlanguage ▸ hnew))
    cases hnode : entry.2 with
    | file content => exact .file content
    | _ =>
        rw [hnode] at hfile
        cases hfile
  · have hold : entries.lookup entry.1 = some entry.2 := by
      rw [← h.others _ fun language hlanguage => hname ⟨language, hlanguage⟩]
      exact hnew
    have hbelow : (Node.directory entries).LinkFree := h.linkFree.at? (at?_of_find h.find)
    exact hbelow.child? hold

theorem find_refill (h : disk.Redescribed path configName place entries new) :
    (disk.refill place new).find path = .ok (place, .directory new) := by
  have hdirectory := h.isDirectory
  unfold Disk.isDirectory node? at hdirectory
  cases hfind : (disk.refill place new).find path with
  | error fault => simp [hfind] at hdirectory
  | ok result =>
      obtain ⟨place', node'⟩ := result
      obtain rfl : place' = place := place_eq_of_find h.linkFree h.linkFree_refill rfl h.find hfind
      have hnode' : _ = some node' := at?_of_find hfind
      rw [refill, Node.at?_put (at?_of_find h.find)] at hnode'
      rw [Option.some.inj hnode']

end Disk.Redescribed

namespace Collector

section Counting

variable {collector : Collector} {disk other : Disk} {folders : List String}
  {unreadable : List Unreadable}

/-- Another disk with the same folders of components, each of which is loaded as before. -/
structure SameFolders (collector : Collector) (disk other : Disk) : Prop where
  folders : collector.walker.folders other = collector.walker.folders disk
  load {folders : List String} {unreadable : List Unreadable}
    (h : collector.walker.folders disk = .ok (folders, unreadable)) {folder : String}
    (hfolder : folder ∈ folders) :
    collector.loader.load other folder = collector.loader.load disk folder

/-- The folders of components are the same whatever the description of the scanned directory
says. -/
theorem sameFolders_of_redescribed {place : List String} {entries new : List (String × Node)}
    (hconfig : '/' ∉ collector.loader.configName.toList)
    (h : disk.Redescribed collector.walker.root collector.loader.configName place entries new) :
    collector.SameFolders disk (disk.refill place new) := by
  have hnames : ∀ entry ∈ entries, Path.IsName entry.1 := fun entry => h.wellFormed_entries.isName
  have hnames' : ∀ entry ∈ new, Path.IsName entry.1 := fun entry => h.wellFormed_new.isName
  have hbefore : collector.walker.folders disk = _ :=
    Walker.folders_eq_names_of_linkFree hnames h.linkFree h.find
  have hafter : collector.walker.folders (disk.refill place new) = _ :=
    Walker.folders_eq_names_of_linkFree hnames' h.linkFree_refill h.find_refill
  constructor
  · rw [hafter, hbefore, h.names_eq]
  · intro folders unreadable hfolders folder hfolder
    obtain ⟨rfl, -⟩ := Prod.mk.inj (Except.ok.inj (hbefore.symm.trans hfolders))
    obtain ⟨name, hname, rfl⟩ := List.mem_map.mp hfolder
    obtain ⟨⟨node, hmem, hdirectory⟩, -⟩ := Walker.mem_names.mp hname
    have hlookup := h.lookup_eq_of_isDirectory hdirectory
      (.inl (h.wellFormed_entries.lookup_of_mem hmem))
    refine Loader.load_congr fun language => .of_find ?_
    have hbelow : ∀ next ∈ [name, language.path collector.loader.configName], Path.IsName next := by
      simp [hnames _ hmem, Language.isName_path hconfig language]
    have hpath : language.path (Path.join (Path.join collector.walker.root name)
        collector.loader.configName) =
          Path.below collector.walker.root [name, language.path collector.loader.configName] :=
      Language.path_join hconfig _ language
    rw [hpath, Disk.find_below h.linkFree_refill h.find_refill hbelow,
      Disk.find_below h.linkFree h.find hbelow]
    simp only [Node.descend, hlookup]

/-! ## What is counted -/

def failures (collector : Collector) (disk : Disk) (folders : List String) : Nat :=
  folders.countP fun folder => (fault? (collector.loader.load disk folder).outcome).isSome

/-- One if the description of the scanned directory cannot be loaded. -/
def globalFailures (collector : Collector) (disk : Disk) : Nat :=
  match collector.loader.loadGlobal disk collector.walker.root with
  | .ok _ => 0
  | .error _ => 1

theorem globalFailures_eq_zero_iff : collector.globalFailures disk = 0 ↔
    ∃ options, collector.loader.loadGlobal disk collector.walker.root = .ok options := by
  unfold globalFailures
  split <;> rename_i hglobal <;> simp [hglobal]

theorem globalFailures_eq_iff : collector.globalFailures other = collector.globalFailures disk ↔
    ((∃ options, collector.loader.loadGlobal other collector.walker.root = .ok options) ↔
      ∃ options, collector.loader.loadGlobal disk collector.walker.root = .ok options) := by
  rw [← globalFailures_eq_zero_iff, ← globalFailures_eq_zero_iff]
  unfold globalFailures
  split <;> split <;> simp

theorem length_global_fault : (fault? (collector.loader.loadGlobal disk
    collector.walker.root)).toList.length = collector.globalFailures disk := by
  unfold globalFailures
  split <;> rename_i hglobal <;> rw [hglobal] <;> rfl

theorem length_faults (collector : Collector) (disk : Disk) (folders : List String) :
    (folders.filterMap fun folder => (fault? (collector.loader.load disk folder).outcome).map
        (FolderError.ofFault folder)).length = collector.failures disk folders := by
  rw [List.length_filterMap_eq_countP]
  simp only [Option.isSome_map, failures]

/-- A folder is loaded or fails. -/
theorem length_loaded_add_failures (collector : Collector) (disk : Disk) (folders : List String) :
    (folders.filterMap fun folder =>
        (collector.loader.load disk folder).outcome.toOption).length +
      collector.failures disk folders = folders.length := by
  have hloaded : ∀ folder, (collector.loader.load disk folder).outcome.toOption.isSome =
      !(fault? (collector.loader.load disk folder).outcome).isSome := by
    intro folder
    cases (collector.loader.load disk folder).outcome <;> rfl
  rw [List.length_filterMap_eq_countP, failures, Nat.add_comm,
    List.length_eq_countP_add_countP fun folder =>
      (fault? (collector.loader.load disk folder).outcome).isSome]
  simp only [hloaded, decide_not, Bool.decide_eq_true]

theorem failures_eq_of_sameFolders (h : collector.SameFolders disk other)
    (hfolders : collector.walker.folders disk = .ok (folders, unreadable)) :
    collector.failures other folders = collector.failures disk folders := by
  refine List.countP_congr fun folder hfolder => ?_
  rw [h.load hfolders hfolder]

structure Tallies (collector : Collector) (disk : Disk) (folders : List String)
    (unreadable : List Unreadable) (summary : Summary) : Prop where
  totalFolders : summary.totalFolders =
    folders.length + unreadable.length + collector.globalFailures disk
  failedFolders : summary.failedFolders =
    unreadable.length + collector.failures disk folders + collector.globalFailures disk

theorem tallies_of_accounts {results : Results}
    (h : results.Accounts collector disk folders unreadable) :
    collector.Tallies disk folders unreadable results.summary := by
  have herrors : results.errors.length = unreadable.length + collector.globalFailures disk +
      collector.failures disk folders := by
    rw [h.errors, List.length_append, List.length_append, List.length_map, List.length_map,
      length_global_fault, length_faults]
  have hcomponents : results.components.length + collector.failures disk folders =
      folders.length := by
    rw [h.components]
    exact length_loaded_add_failures collector disk folders
  constructor
  · rw [h.counted.totalFolders]
    omega
  · rw [h.counted.failedFolders]
    omega

theorem exists_folders_of_collect {clock : Clock} {parallel : Plan} {results : Results}
    (h : (collector.collect disk clock parallel).outcome = .ok results) :
    ∃ folders unreadable, collector.walker.folders disk = .ok (folders, unreadable) := by
  unfold collect at h
  cases hfolders : collector.walker.folders disk with
  | error fault =>
      rw [hfolders] at h
      cases h
  | ok listed => exact ⟨listed.1, listed.2, rfl⟩

theorem tallies_of_collect (htolerant : collector.settings.failFast = false)
    (hfolders : collector.walker.folders disk = .ok (folders, unreadable)) {clock : Clock}
    {parallel : Plan} {results : Results}
    (h : (collector.collect disk clock parallel).outcome = .ok results) :
    collector.Tallies disk folders unreadable results.summary := by
  rw [collect_outcome_of_tolerant htolerant hfolders] at h
  obtain rfl := Except.ok.inj h
  exact tallies_of_accounts (tolerated_accounts clock)

/-- Results tell of errors just when something could not be loaded. -/
theorem hasErrors_iff_of_collect (htolerant : collector.settings.failFast = false)
    (hfolders : collector.walker.folders disk = .ok (folders, unreadable)) {clock : Clock}
    {parallel : Plan} {results : Results}
    (h : (collector.collect disk clock parallel).outcome = .ok results) :
    results.hasErrors = true ↔
      unreadable ≠ [] ∨ 0 < collector.failures disk folders ∨
        0 < collector.globalFailures disk := by
  rw [collect_outcome_of_tolerant htolerant hfolders] at h
  obtain rfl := Except.ok.inj h
  have haccounts : (collector.tolerated disk clock folders unreadable).Accounts collector disk
      folders unreadable := tolerated_accounts clock
  have hfailed := (tallies_of_accounts haccounts).failedFolders
  rw [haccounts.counted.failedFolders] at hfailed
  have herrors (results : Results) : results.hasErrors = true ↔ 0 < results.errors.length := by
    rw [Results.hasErrors, Bool.not_eq_true', List.isEmpty_eq_false_iff, List.length_pos_iff]
  rw [herrors, hfailed, ← List.length_pos_iff]
  omega

end Counting

/-- The total and the failures that a tolerant run tells are those of the folders of components
as long as the description of the scanned directory can be loaded; otherwise both are one
more.  So another description there leaves the counts as they are just when both can be
loaded or neither. -/
theorem collect_counts_folders {settings : Settings} {collector : Collector}
    (hcollector : ofSettings settings = .ok collector) (htolerant : settings.failFast = false)
    (disk : Disk) (clock : Clock) (parallel : Plan) {results : Results}
    (h : (collector.collect disk clock parallel).outcome = .ok results) :
    ∃ folders unreadable, collector.walker.folders disk = .ok (folders, unreadable) ∧
      collector.Tallies disk folders unreadable results.summary ∧
      (results.summary.totalFolders = folders.length + unreadable.length ↔
        ∃ options, collector.loader.loadGlobal disk settings.scanPath = .ok options) ∧
      (∀ other, collector.SameFolders disk other → ∀ clock' parallel' results',
        (collector.collect other clock' parallel').outcome = .ok results' →
          let unchanged := ((∃ options,
              collector.loader.loadGlobal other settings.scanPath = .ok options) ↔
            ∃ options, collector.loader.loadGlobal disk settings.scanPath = .ok options)
          (results'.summary.totalFolders = results.summary.totalFolders ↔ unchanged) ∧
            (results'.summary.failedFolders = results.summary.failedFolders ↔ unchanged)) ∧
      ∀ place entries new, '/' ∉ settings.configName.toList →
        disk.Redescribed settings.scanPath settings.configName place entries new →
        collector.SameFolders disk (disk.refill place new) := by
  obtain ⟨rfl, hroot, hconfigName⟩ := fields_of_ofSettings hcollector
  rw [← hroot, ← hconfigName]
  obtain ⟨folders, unreadable, hfolders⟩ := exists_folders_of_collect h
  have htallies := tallies_of_collect htolerant hfolders h
  refine ⟨folders, unreadable, hfolders, htallies, ?_, ?_, ?_⟩
  · rw [← globalFailures_eq_zero_iff, htallies.totalFolders]
    omega
  · intro other hsame clock' parallel' results' h' unchanged
    have hfolders' : collector.walker.folders other = .ok (folders, unreadable) :=
      hsame.folders.trans hfolders
    have htallies' := tallies_of_collect htolerant hfolders' h'
    have hfailures := failures_eq_of_sameFolders hsame hfolders
    have hunchanged : collector.globalFailures other = collector.globalFailures disk ↔
        unchanged := globalFailures_eq_iff
    rw [← hunchanged, htallies'.totalFolders, htallies.totalFolders, htallies'.failedFolders,
      htallies.failedFolders, hfailures]
    omega
  · intro place entries new hconfig hredescribed
    exact sameFolders_of_redescribed hconfig hredescribed

namespace Titles

def folder : List (String × Node) :=
  [("readme.js", .file (.text "module.exports = \x7b component: () => 1 \x7d;"))]

def untitled : List (String × Node) := [("button", .directory folder)]

/-- The same folder beside a description whose title is no text. -/
def entries : List (String × Node) :=
  [("button", .directory folder),
    ("readme.js", .file (.text "module.exports = \x7b title: 42 \x7d;"))]

def disk : Disk := ⟨.directory entries, []⟩

def collector : Collector := Neighbours.collector "readme"

theorem folder_wellFormed : (Node.directory folder).WellFormed := by
  refine .directory (by decide) (by decide +kernel) fun entry hentry => ?_
  obtain rfl := List.mem_singleton.mp hentry
  exact .file _

theorem folder_linkFree : (Node.directory folder).LinkFree := by
  refine .directory fun entry hentry => ?_
  obtain rfl := List.mem_singleton.mp hentry
  exact .file _

theorem redescribed : disk.Redescribed "/" "readme" [] entries untitled where
  linkFree := by
    refine .directory fun entry hentry => ?_
    simp only [entries, List.mem_cons, List.not_mem_nil, or_false] at hentry
    rcases hentry with rfl | rfl
    · exact folder_linkFree
    · exact .file _
  wellFormed := by
    refine .directory (by decide) (by decide +kernel) fun entry hentry => ?_
    simp only [entries, List.mem_cons, List.not_mem_nil, or_false] at hentry
    rcases hentry with rfl | rfl
    · exact folder_wellFormed
    · exact .file _
  wellFormed_new := by
    refine .directory (by decide) (by decide +kernel) fun entry hentry => ?_
    obtain rfl := List.mem_singleton.mp hentry
    exact folder_wellFormed
  find := Neighbours.find_slash entries
  isDirectory := Disk.isDirectory_of_find (Neighbours.find_slash untitled)
  others := by
    intro name hname
    have hdescription : name ≠ "readme.js" := hname .js
    have hother : (name == "readme.js") = false := beq_false_of_ne hdescription
    cases hbutton : name == "button" <;> simp [entries, untitled, List.lookup_cons, hbutton, hother]
  description := by
    intro language node hlookup
    cases language with
    | js =>
        rcases hlookup with hlookup | hlookup
        · obtain rfl := Option.some.inj hlookup
          rfl
        · cases hlookup
    | ts | tsx => rcases hlookup with hlookup | hlookup <;> cases hlookup

theorem folders_disk : collector.walker.folders disk = .ok (["/button"], []) := by
  have hnames : ∀ entry ∈ entries, Path.IsName entry.1 := by decide
  have hsorted : entries.Pairwise fun a b => Walker.nameLe a b = true := by
    decide +kernel
  have hkept : collector.walker.names entries = ["button"] := by
    rw [Walker.names, List.mergeSort_of_pairwise hsorted]
    decide +kernel
  have hpaths : ["button"].map (Path.join "/") = ["/button"] := by decide +kernel
  have hfolders : collector.walker.folders disk = _ :=
    Walker.folders_eq_names_of_linkFree hnames redescribed.linkFree (Neighbours.find_slash entries)
  rw [hfolders, hkept, ← hpaths]
  rfl

theorem total_disk (clock : Clock) :
    (collector.tolerated disk clock ["/button"] []).summary.totalFolders = 2 := by
  have htallies := tallies_of_accounts
    (tolerated_accounts clock : (collector.tolerated disk clock ["/button"] []).Accounts _ _ _ _)
  have hglobal : collector.globalFailures disk = 1 := by decide +kernel
  rw [htallies.totalFolders, hglobal]
  rfl

end Titles

open Titles in
theorem collect_counts_folders_titles :
    ofSettings (Neighbours.scanRoot "readme") = .ok collector ∧
      (Neighbours.scanRoot "readme").failFast = false ∧
      disk.Redescribed "/" "readme" [] entries untitled ∧
      ∀ clock parallel, ∃ results results',
        (collector.collect disk clock parallel).outcome = .ok results ∧
          (collector.collect (disk.refill [] untitled) clock parallel).outcome = .ok results' ∧
          results.summary.totalFolders = 2 ∧
          results'.summary.totalFolders ≠ results.summary.totalFolders := by
  have hcollector : ofSettings (Neighbours.scanRoot "readme") = .ok collector := rfl
  have hslash : '/' ∉ (Neighbours.scanRoot "readme").configName.toList := by decide +kernel
  have hbroken : (collector.loader.loadGlobal disk "/").isOk = false := by decide +kernel
  have habsent : (collector.loader.loadGlobal (disk.refill [] untitled) "/").isOk = true := by
    decide +kernel
  refine ⟨hcollector, rfl, redescribed, fun clock parallel => ?_⟩
  have hbefore : (collector.collect disk clock parallel).outcome = _ :=
    collect_outcome_of_tolerant rfl folders_disk clock parallel
  obtain ⟨folders, unreadable, hfolders, htallies, -, hcounts, hsame⟩ :=
    collect_counts_folders hcollector rfl disk clock parallel hbefore
  have hother := hsame [] entries untitled hslash redescribed
  have hafter : (collector.collect (disk.refill [] untitled) clock parallel).outcome = _ :=
    collect_outcome_of_tolerant rfl (hother.folders.trans folders_disk) clock parallel
  obtain ⟨htotal, -⟩ := hcounts _ hother clock parallel _ hafter
  refine ⟨_, _, hbefore, hafter, total_disk clock, fun heq => ?_⟩
  obtain ⟨options, hoptions⟩ := (htotal.mp heq).mp (exists_eq_ok_of_isOk habsent)
  have hglobal : collector.loader.loadGlobal disk "/" = .ok options := hoptions
  rw [hglobal] at hbroken
  cases hbroken

open Titles in
/-- A description of the scanned directory that cannot be loaded is counted as a folder. -/
theorem exists_total_above_folders :
    ¬ ∀ (settings : Settings) (collector : Collector) (disk : Disk) (clock : Clock)
        (parallel : Plan) (results : Results) (folders : List String)
        (unreadable : List Unreadable),
      ofSettings settings = .ok collector → settings.failFast = false →
      (collector.collect disk clock parallel).outcome = .ok results →
      collector.walker.folders disk = .ok (folders, unreadable) →
      results.summary.totalFolders = folders.length + unreadable.length := by
  intro hall
  have htotal := hall (Neighbours.scanRoot "readme") collector disk ⟨.epoch, 0⟩ Schedule.inOrder _ _
    _ rfl rfl (collect_outcome_of_tolerant rfl folders_disk _ _) folders_disk
  rw [total_disk] at htotal
  cases htotal

end Collector

end Showcase
