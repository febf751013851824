import Mathlib.Algebra.GroupWithZero.Nat
import Showcase.Settings.Validation
import Showcase.Proofs.Collection.Faults

namespace Showcase

/-!
# Tolerant runs

A tolerant run makes its attempts one after the other and records each: what it could not
list, the options of the scanned directory if they cannot be loaded, and every folder.  None
of them can end the run, so the results are those attempts, all of them and each once.
-/

/-- A failure as it is recorded. -/
def FolderError.ofFault (folder : String) (fault : Fault) : FolderError :=
  ⟨folder, fault.message, fault.severity⟩

/-- A place that was looked at, with what came of it. -/
abbrev Attempt : Type := String × Except Fault FolderOptions

namespace Attempt

def component? (attempt : Attempt) : Option FolderOptions := attempt.2.toOption

def error? (attempt : Attempt) : Option FolderError :=
  (fault? attempt.2).map (.ofFault attempt.1)

end Attempt

namespace Results

/-- Records an attempt. -/
def add (results : Results) : Attempt → Results
  | (_, .ok component) => results.addComponent component
  | (folder, .error fault) => results.addError folder fault

/-- The counts say how much was recorded. -/
structure Counted (results : Results) : Prop where
  components : results.summary.components = results.components.length
  failedFolders : results.summary.failedFolders = results.errors.length
  totalFolders : results.summary.totalFolders = results.components.length + results.errors.length
  propsEntries : results.summary.propsEntries = (results.components.map (·.props.length)).sum

theorem Counted.add {results : Results} (h : results.Counted) (attempt : Attempt) :
    (results.add attempt).Counted := by
  obtain ⟨hcomponents, hfailed, htotal, hprops⟩ := h
  obtain ⟨folder, fault | component⟩ := attempt
  · constructor <;> simp [Results.add, addError] <;> omega
  · constructor <;> simp [Results.add, addComponent] <;> omega

theorem Counted.foldl_add {results : Results} (h : results.Counted) (attempts : List Attempt) :
    (attempts.foldl Results.add results).Counted := by
  induction attempts generalizing results with
  | nil => exact h
  | cons attempt rest ih => exact ih (h.add attempt)

section Step

variable (results : Results) (attempt : Attempt)

theorem add_components :
    (results.add attempt).components = results.components ++ attempt.component?.toList := by
  obtain ⟨folder, fault | component⟩ := attempt <;>
    simp [add, addError, addComponent, Attempt.component?, Except.toOption]

theorem add_errors : (results.add attempt).errors = results.errors ++ attempt.error?.toList := by
  obtain ⟨folder, fault | component⟩ := attempt <;>
    simp [add, addError, addComponent, Attempt.error?, fault?, FolderError.ofFault]

theorem add_root : (results.add attempt).root = results.root := by
  obtain ⟨folder, fault | component⟩ := attempt <;> rfl

theorem add_global : (results.add attempt).global = results.global := by
  obtain ⟨folder, fault | component⟩ := attempt <;> rfl

theorem add_generatedAt : (results.add attempt).generatedAt = results.generatedAt := by
  obtain ⟨folder, fault | component⟩ := attempt <;> rfl

end Step

section Fold

variable (results : Results) (attempts : List Attempt)

/-- A list to which each attempt adds at most one item grows by the items of all of them. -/
theorem foldl_add_append {f : Results → List β} {g : Attempt → Option β}
    (h : ∀ results attempt, f (results.add attempt) = f results ++ (g attempt).toList) :
    f (attempts.foldl add results) = f results ++ attempts.filterMap g := by
  induction attempts generalizing results with
  | nil => simp
  | cons attempt rest ih =>
      rw [List.foldl_cons, ih, h, List.filterMap_cons]
      cases g attempt <;> simp

theorem foldl_add_preserves {f : Results → β}
    (h : ∀ results attempt, f (results.add attempt) = f results) :
    f (attempts.foldl add results) = f results := by
  induction attempts generalizing results with
  | nil => rfl
  | cons attempt rest ih => exact (ih _).trans (h results attempt)

/-! What recording does not touch may as well be set at the end. -/

theorem foldl_add_with_global (global : Option GlobalOptions) :
    attempts.foldl add { results with global } = { attempts.foldl add results with global } := by
  refine List.foldl_hom (fun r : Results => { r with global }) fun results attempt => ?_
  obtain ⟨folder, fault | component⟩ := attempt <;> rfl

theorem foldl_add_with_generatedAt (generatedAt : Timestamp) :
    attempts.foldl add { results with generatedAt } =
      { attempts.foldl add results with generatedAt } := by
  refine List.foldl_hom (fun r : Results => { r with generatedAt }) fun results attempt => ?_
  obtain ⟨folder, fault | component⟩ := attempt <;> rfl

end Fold

end Results

namespace Collector

variable {collector : Collector} {disk : Disk} {folders : List String}
  {unreadable : List Unreadable}

/-! ## What a run attempts -/

/-- The options of the scanned directory are an attempt only when they cannot be loaded. -/
def globalAttempts (collector : Collector) (disk : Disk) : List Attempt :=
  match collector.loader.loadGlobal disk collector.walker.root with
  | .ok _ => []
  | .error fault => [(collector.walker.root, .error fault)]

def global? (collector : Collector) (disk : Disk) : Option GlobalOptions :=
  (collector.loader.loadGlobal disk collector.walker.root).toOption.join

/-- The attempts before the first folder is loaded. -/
def earlyAttempts (collector : Collector) (disk : Disk) (unreadable : List Unreadable) :
    List Attempt :=
  unreadable.map (fun u => (u.path, .error u.fault)) ++ collector.globalAttempts disk

def folderAttempts (collector : Collector) (disk : Disk) (folders : List String) : List Attempt :=
  folders.map fun folder => (folder, (collector.loader.load disk folder).outcome)

theorem folderAttempts_confined {attempt : Attempt}
    (h : attempt ∈ collector.folderAttempts disk folders) : Confined attempt.2 := by
  obtain ⟨folder, -, rfl⟩ := List.mem_map.mp h
  exact collector.loader.load_confined disk folder

/-- Attempts without a critical failure are recorded to the last. -/
theorem record_eq_of_confined (results : Results) {attempts : List Attempt}
    (h : ∀ attempt ∈ attempts, Confined attempt.2) :
    (record results attempts).results = attempts.foldl Results.add results ∧
      (record results attempts).critical = none := by
  induction attempts generalizing results with
  | nil => exact ⟨rfl, rfl⟩
  | cons attempt rest ih =>
      have hrest := fun results =>
        ih results fun other hother => h other (List.mem_cons_of_mem _ hother)
      obtain ⟨folder, fault | component⟩ := attempt
      · have hfault : fault.isCritical = false := h _ List.mem_cons_self fault rfl
        simp only [record, Fault.handle, hfault, Bool.false_eq_true, if_false]
        exact hrest _
      · exact hrest _

/-- The results of a tolerant run. -/
def tolerated (collector : Collector) (disk : Disk) (clock : Clock) (folders : List String)
    (unreadable : List Unreadable) : Results :=
  ((collector.earlyAttempts disk unreadable ++ collector.folderAttempts disk folders).foldl
      Results.add { Results.start collector.walker.root clock.now with
        global := collector.global? disk }).setDuration clock.elapsed

theorem tolerantFolders_outcome (clock : Clock) (parallel : Plan) (results : Results)
    (notices : List Notice) :
    (collector.tolerantFolders disk clock parallel folders results notices).outcome =
      .ok (((collector.folderAttempts disk folders).foldl Results.add results).setDuration
        clock.elapsed) := by
  have hconfined : ∀ attempt ∈ collector.folderAttempts disk folders, Confined attempt.2 :=
    fun attempt => folderAttempts_confined
  obtain ⟨hresults, hcritical⟩ := record_eq_of_confined results hconfined
  simp only [tolerantFolders, loadAll, Schedule.run]
  simp only [folderAttempts] at hresults hcritical
  rw [hcritical, hresults]
  rfl

/-- Neither what the folders hold nor the order in which they are loaded matters to whether
a tolerant run has results. -/
theorem collect_outcome_of_tolerant (hfail : collector.settings.failFast = false)
    (hfolders : collector.walker.folders disk = .ok (folders, unreadable)) (clock : Clock)
    (parallel : Plan) :
    (collector.collect disk clock parallel).outcome =
      .ok (collector.tolerated disk clock folders unreadable) := by
  have hconfined : ∀ attempt ∈ unreadable.map (fun u => ((u.path, .error u.fault) : Attempt)),
      Confined attempt.2 := by
    intro attempt hattempt
    obtain ⟨u, hu, rfl⟩ := List.mem_map.mp hattempt
    exact .error (Walker.isCritical_of_mem_unreadable hfolders hu)
  obtain ⟨hresults, hcritical⟩ :=
    record_eq_of_confined (.start collector.walker.root clock.now) hconfined
  simp only [collect, collectListed, hfolders, hfail, Bool.false_eq_true, if_false, tolerant,
    hcritical]
  -- The options are set before the folders are loaded, but no attempt looks at them.
  cases hglobal : collector.loader.loadGlobal disk collector.walker.root with
  | ok options =>
      simp only [tolerantFolders_outcome, hresults, ← Results.foldl_add_with_global]
      simp [tolerated, earlyAttempts, globalAttempts, global?, hglobal, Except.toOption]
  | error fault =>
      have hfault : fault.isCritical = false :=
        collector.loader.loadGlobal_confined disk _ fault hglobal
      simp only [hfault, Bool.false_eq_true, if_false, tolerantFolders_outcome, hresults]
      simp [tolerated, earlyAttempts, globalAttempts, global?, hglobal, Except.toOption,
        Results.add, Results.start]

/-! ## Settings -/

theorem fields_of_ofSettings {settings : Settings} (h : ofSettings settings = .ok collector) :
    collector.settings = settings ∧ collector.walker.root = settings.scanPath ∧
      collector.loader.configName = settings.configName := by
  unfold ofSettings Walker.ofSettings at h
  cases hpatterns : Walker.patterns settings.excludePatterns with
  | error fault => simp [hpatterns] at h
  | ok globs =>
      rw [hpatterns] at h
      obtain rfl := Except.ok.inj h
      exact ⟨rfl, rfl, rfl⟩

theorem exists_patterns_of_validatePatterns {patterns : List String}
    (h : Settings.validatePatterns patterns = .ok ()) :
    ∃ globs, Walker.patterns patterns = .ok globs := by
  induction patterns with
  | nil => exact ⟨[], rfl⟩
  | cons pattern rest ih =>
      unfold Settings.validatePatterns at h
      split at h
      · rename_i glob hparse
        obtain ⟨globs, hglobs⟩ := ih h
        exact ⟨glob :: globs, by simp [Walker.patterns, hparse, hglobs]⟩
      · cases h

/-- Settings that are validated have a directory to scan and patterns that can be read. -/
theorem exists_ofSettings_of_validate {settings : Settings} (h : settings.validate disk = .ok ()) :
    disk.isDirectory settings.scanPath = true ∧
      ∃ globs, Collector.ofSettings settings = .ok
        { settings
          walker := ⟨settings.scanPath, globs, settings.followLinks⟩
          loader := ⟨settings.configName, settings.jsOnly⟩ } := by
  unfold Settings.validate at h
  cases hdirectory : disk.isDirectory settings.scanPath with
  | false =>
      rw [hdirectory] at h
      cases h
  | true =>
      rw [hdirectory] at h
      cases hpatterns : Settings.validatePatterns settings.excludePatterns with
      | error fault =>
          rw [hpatterns] at h
          cases h
      | ok =>
          obtain ⟨globs, hglobs⟩ := exists_patterns_of_validatePatterns hpatterns
          exact ⟨rfl, globs, by simp [ofSettings, Walker.ofSettings, hglobs]⟩

theorem severity_ne_critical {fault : Fault} (h : fault.isCritical = false) :
    fault.severity ≠ .critical := by
  simpa [Fault.isCritical] using h

/-- With settings that are validated, a tolerant run ends with results whatever the folders
hold: neither the walk nor the scanned directory nor any folder yields a critical failure. -/
theorem collect_ok_of_validate {settings : Settings} (hvalid : settings.validate disk = .ok ())
    (htolerant : settings.failFast = false) :
    ∃ collector, ofSettings settings = .ok collector ∧
      (∀ clock parallel, ∃ results, (collector.collect disk clock parallel).outcome = .ok results) ∧
      (∃ folders unreadable, collector.walker.folders disk = .ok (folders, unreadable) ∧
        ∀ u ∈ unreadable, u.fault.severity ≠ .critical) ∧
      (∀ fault, collector.loader.loadGlobal disk collector.walker.root = .error fault →
        fault.severity ≠ .critical) ∧
      ∀ folder fault, (collector.loader.load disk folder).outcome = .error fault →
        fault.severity ≠ .critical := by
  obtain ⟨hdirectory, globs, hcollector⟩ := exists_ofSettings_of_validate hvalid
  let walker : Walker := ⟨settings.scanPath, globs, settings.followLinks⟩
  obtain ⟨folders, unreadable, hfolders⟩ : ∃ folders unreadable,
      walker.folders disk = .ok (folders, unreadable) :=
    Walker.exists_folders_of_isDirectory hdirectory
  refine ⟨_, hcollector, fun clock parallel => ?_, ⟨folders, unreadable, hfolders, ?_⟩,
    fun fault hfault => ?_, fun folder fault hfault => ?_⟩
  · exact ⟨_, collect_outcome_of_tolerant htolerant hfolders clock parallel⟩
  · intro u hu
    exact severity_ne_critical (Walker.isCritical_of_mem_unreadable hfolders hu)
  · exact severity_ne_critical (Loader.loadGlobal_confined _ disk _ fault hfault)
  · exact severity_ne_critical (Loader.load_confined _ disk folder fault hfault)

namespace Tolerance

/-- A directory in which everything fails that can fail: its own description and that of
the folder `broken` are no text, and the link `loop` leads to itself. -/
def hostile : Disk :=
  ⟨.directory [
    ("readme.js", .file (.binary [0xFF])),
    ("broken", .directory [("readme.js", .file (.binary [0xFF]))]),
    ("loop", .link "loop")], []⟩

def scanRoot : Settings :=
  { Settings.default with scanPath := "/", followLinks := true }

end Tolerance

open Tolerance in
theorem collect_ok_of_validate_broken :
    scanRoot.validate hostile = .ok () ∧ scanRoot.failFast = false ∧
      ∃ collector, ofSettings scanRoot = .ok collector ∧
        ∀ clock parallel, ∃ results,
          (collector.collect hostile clock parallel).outcome = .ok results := by
  have hvalid : scanRoot.validate hostile = .ok () := by
    have hok : (scanRoot.validate hostile).isOk = true := by decide +kernel
    cases h : scanRoot.validate hostile with
    | ok => rfl
    | error fault =>
        rw [h] at hok
        cases hok
  obtain ⟨collector, hcollector, hresults, -⟩ := collect_ok_of_validate hvalid rfl
  exact ⟨hvalid, rfl, collector, hcollector, hresults⟩

end Collector

end Showcase
