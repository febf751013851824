import Showcase.Collection.Results
import Showcase.Collection.Schedule
import Showcase.Collection.Walk

namespace Showcase

/-! # Collecting components

A tolerant run records failures and goes on; only a critical one ends it.  A strict run
ends with the first failure.
-/

/-- When a run began, and how long it took in nanoseconds. -/
structure Clock where
  now : Timestamp
  elapsed : Nat
deriving Inhabited

/-- What a run did. -/
structure Run where
  outcome : Except Fault Results
  progress : List Progress
  notices : List Notice

/-- What is needed to collect components. -/
structure Collector where
  settings : Settings
  walker : Walker
  loader : Loader

/-- Results with the outcomes recorded so far, and the critical failure that ended them. -/
structure Recorded where
  results : Results
  notices : List Notice
  critical : Option Fault

namespace Collector

def ofSettings (settings : Settings) : Except Fault Collector :=
  match Walker.ofSettings settings with
  | .ok walker =>
    .ok { settings, walker
          loader := { configName := settings.configName, untypedOnly := settings.jsOnly } }
  | .error fault => .error fault

/-- Records the outcomes of folders up to a critical failure. -/
def record (results : Results) : List (String × Except Fault FolderOptions) → Recorded
  | [] => ⟨results, [], none⟩
  | (_, .ok component) :: rest => record (results.addComponent component) rest
  | (folder, .error fault) :: rest =>
    let results := results.addError folder fault
    match fault.handle with
    | (some critical, notice) => ⟨results, [notice], some critical⟩
    | (none, notice) =>
      let recorded := record results rest
      { recorded with notices := notice :: recorded.notices }

/-- What is told before the first folder is loaded. -/
def found (count : Nat) : Progress := ⟨0, count, s!"Found {count} component folders"⟩

def plan (collector : Collector) (parallel : Plan) : Plan :=
  if collector.settings.parallel then parallel else Schedule.inOrder

def loadNotices (collector : Collector) (disk : Disk) (folders : List String) : List Notice :=
  folders.flatMap fun folder => (collector.loader.load disk folder).notices

/-- Loads all folders, whatever fails. -/
def loadAll (collector : Collector) (disk : Disk) (parallel : Plan) (folders : List String) :
    List (String × Except Fault FolderOptions) × List Progress :=
  (collector.plan parallel folders.length).run Path.label
    (fun folder => (folder, (collector.loader.load disk folder).outcome)) folders

/-- The folders up to the first that fails. -/
def upToFailure (collector : Collector) (disk : Disk) : List String → List String
  | [] => []
  | folder :: rest =>
    match (collector.loader.load disk folder).outcome with
    | .ok _ => folder :: collector.upToFailure disk rest
    | .error _ => [folder]

/-- The order in which folders are finished when a failure ends the work.  One after the
other, they are loaded up to the first that fails. -/
def strictSchedule (collector : Collector) (disk : Disk) (parallel : Plan)
    (folders : List String) : Schedule :=
  if collector.settings.parallel then parallel folders.length
  else Schedule.inOrder (collector.upToFailure disk folders).length

/-- Loads all folders unless one fails. -/
def loadAllOrFail (collector : Collector) (disk : Disk) (parallel : Plan)
    (folders : List String) : Except Fault (List FolderOptions) × List Progress :=
  (collector.strictSchedule disk parallel folders).runOrFail Path.label
    (fun folder => (collector.loader.load disk folder).outcome) folders

def tolerantFolders (collector : Collector) (disk : Disk) (clock : Clock) (parallel : Plan)
    (folders : List String) (results : Results) (notices : List Notice) : Run :=
  let (outcomes, ticks) := collector.loadAll disk parallel folders
  let recorded := record results outcomes
  { outcome := match recorded.critical with
      | some fault => .error fault
      | none => .ok (recorded.results.setDuration clock.elapsed)
    progress := found folders.length :: ticks
    notices := notices ++
      collector.loadNotices disk ((collector.plan parallel folders.length).finished folders) ++
      recorded.notices }

def tolerant (collector : Collector) (disk : Disk) (clock : Clock) (parallel : Plan)
    (folders : List String) (unreadable : List Unreadable) : Run :=
  let root := collector.walker.root
  let recorded := record (.start root clock.now) (unreadable.map fun u => (u.path, .error u.fault))
  match recorded.critical with
  | some fault => ⟨.error fault, [], recorded.notices⟩
  | none =>
    match collector.loader.loadGlobal disk root with
    | .ok options =>
      collector.tolerantFolders disk clock parallel folders
        { recorded.results with global := options } recorded.notices
    | .error fault =>
      if fault.isCritical then ⟨.error fault, [], recorded.notices⟩
      else
        collector.tolerantFolders disk clock parallel folders
          (recorded.results.addError root fault)
          (recorded.notices ++ [.globalUnreadable root fault.message])

def strict (collector : Collector) (disk : Disk) (clock : Clock) (parallel : Plan)
    (folders : List String) (unreadable : List Unreadable) : Run :=
  let root := collector.walker.root
  match unreadable with
  | u :: _ => ⟨.error u.fault, [], []⟩
  | [] =>
    match collector.loader.loadGlobal disk root with
    | .error fault => ⟨.error fault, [], []⟩
    | .ok options =>
      let (loaded, ticks) := collector.loadAllOrFail disk parallel folders
      let results : Results := { Results.start root clock.now with global := options }
      { outcome := match loaded with
          | .error fault => .error fault
          | .ok components =>
            .ok ((components.foldl Results.addComponent results).setDuration clock.elapsed)
        progress := found folders.length :: ticks
        notices := collector.loadNotices disk
          ((collector.strictSchedule disk parallel folders).finished folders) }

/-- Collects the components of folders that were listed.  `parallel` tells how work on
folders goes if it is parallel. -/
def collectListed (collector : Collector)
    (listed : Except Fault (List String × List Unreadable)) (disk : Disk) (clock : Clock)
    (parallel : Plan) : Run :=
  match listed with
  | .error fault => ⟨.error fault, [], []⟩
  | .ok (folders, unreadable) =>
    if collector.settings.failFast then
      collector.strict disk clock parallel folders unreadable
    else collector.tolerant disk clock parallel folders unreadable

/-- Collects the components below the scanned directory. -/
def collect (collector : Collector) (disk : Disk) (clock : Clock) (parallel : Plan) : Run :=
  collector.collectListed (collector.walker.folders disk) disk clock parallel

end Collector

end Showcase
