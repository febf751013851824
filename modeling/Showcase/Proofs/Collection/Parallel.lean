import Showcase.Proofs.Collection.Strict
import Showcase.Proofs.Collection.Workers

namespace Showcase

/-!
# Runs in parallel

In parallel a tolerant run differs from one that takes folder after folder in what it tells on
the way, and there only in the order.  A strict run differs in more: of several failures it ends
with the one that came first in time.
-/

namespace Collector

variable {collector : Collector} {disk : Disk} {folders : List String}
  {unreadable : List Unreadable}

def withParallel (collector : Collector) (parallel : Bool) : Collector :=
  { collector with settings := { collector.settings with parallel } }

theorem ofSettings_parallel (settings : Settings) (parallel : Bool) :
    ofSettings { settings with parallel } =
      (ofSettings settings).map fun collector => collector.withParallel parallel := by
  unfold ofSettings Walker.ofSettings
  cases Walker.patterns settings.excludePatterns <;> rfl

theorem runWith_of_ofSettings {settings : Settings} (h : ofSettings settings = .ok collector)
    (disk : Disk) (clock : Clock) (plan : Plan) :
    runWith settings disk clock plan = collector.collect disk clock plan := by
  rw [runWith, h]

/-! ## Tolerant runs -/

/-- A tolerant run comes to its folders, whatever came before. -/
theorem exists_collect_eq_tolerantFolders (htolerant : collector.settings.failFast = false)
    (hfolders : collector.walker.folders disk = .ok (folders, unreadable)) (clock : Clock)
    (plan : Plan) :
    ∃ results notices, collector.collect disk clock plan =
      collector.tolerantFolders disk clock plan folders results notices := by
  have hconfined : ∀ attempt ∈ unreadable.map (fun u => ((u.path, .error u.fault) : Attempt)),
      Confined attempt.2 := by
    intro attempt hattempt
    obtain ⟨u, hu, rfl⟩ := List.mem_map.mp hattempt
    exact .error (Walker.isCritical_of_mem_unreadable hfolders hu)
  have hcritical := (record_eq_of_confined (.start collector.walker.root clock.now) hconfined).2
  simp only [collect, collectListed, hfolders, htolerant, Bool.false_eq_true, if_false, tolerant,
    hcritical]
  cases hglobal : collector.loader.loadGlobal disk collector.walker.root with
  | ok options => exact ⟨_, _, rfl⟩
  | error fault =>
      have hfault : fault.isCritical = false :=
        collector.loader.loadGlobal_confined disk _ fault hglobal
      simp only [hfault, Bool.false_eq_true, if_false]
      exact ⟨_, _, rfl⟩

theorem collect_progress_of_tolerant (htolerant : collector.settings.failFast = false)
    (hfolders : collector.walker.folders disk = .ok (folders, unreadable)) (clock : Clock)
    (plan : Plan) :
    (collector.collect disk clock plan).progress =
      found folders.length :: (collector.loadAll disk plan folders).2 := by
  obtain ⟨results, notices, hcollect⟩ :=
    exists_collect_eq_tolerantFolders htolerant hfolders clock plan
  rw [hcollect]
  rfl

/-- The work on a folder in a tolerant run. -/
def attempt (collector : Collector) (disk : Disk) (folder : String) : Attempt :=
  (folder, (collector.loader.load disk folder).outcome)

theorem loadAll_of_parallel (hparallel : collector.settings.parallel = true) (plan : Plan) :
    collector.loadAll disk plan folders =
      (plan folders.length).run Path.label (collector.attempt disk) folders := by
  rw [loadAll, Collector.plan, hparallel, if_pos rfl]
  rfl

/-- The outcome of a tolerant run depends neither on whether it is parallel nor on how. -/
theorem runWith_outcome_of_tolerant {settings : Settings} (htolerant : settings.failFast = false)
    (disk : Disk) (clock clock' : Clock) (plan plan' : Plan) :
    (runWith { settings with parallel := true } disk clock' plan').outcome =
      (runWith { settings with parallel := false } disk clock plan).outcome.map fun results =>
        { results.setDuration clock'.elapsed with generatedAt := clock'.now } := by
  rcases runWith_varied_fails_or_lists (ofSettings_parallel settings) (fun _ _ => rfl) disk with
    ⟨fault, hfails⟩ | ⟨collector, folders, unreadable, rfl, hfolders, hparallel⟩
  · rw [hfails, hfails]
    rfl
  · have hwalk (parallel : Bool) : (collector.withParallel parallel).walker.folders disk =
        .ok (folders, unreadable) := hfolders
    have hfail (parallel : Bool) : (collector.withParallel parallel).settings.failFast = false :=
      htolerant
    have houtcome (parallel : Bool) (clock : Clock) (plan : Plan) :
        (runWith { collector.settings with parallel } disk clock plan).outcome =
          .ok (collector.tolerated disk clock folders unreadable) := by
      rw [runWith_of_ofSettings (hparallel parallel)]
      exact collect_outcome_of_tolerant (hfail parallel) (hwalk parallel) clock plan
    rw [houtcome true, houtcome false, tolerated_eq_of_clock clock clock']
    rfl

/-- In whatever order folders finish, a tolerant run in parallel has the results of one that
takes folder after folder, and tells of each folder once and with each number once. -/
theorem tolerant_agrees_in_parallel {settings : Settings} (htolerant : settings.failFast = false) :
    (∀ (folders : List String) (outcome : String → Except Fault FolderOptions)
        (turns : List Nat),
      let work : String → Attempt := fun folder => (folder, outcome folder)
      let workers := (Workers.start folders).run Path.label work turns
      workers.isDone = true → workers.results = folders.map work ∧
        Progress.Covers workers.progress (folders.map Path.label)) ∧
    (∀ disk clock clock' plan plan',
      (runWith { settings with parallel := true } disk clock' plan').outcome =
        (runWith { settings with parallel := false } disk clock plan).outcome.map fun results =>
          { results.setDuration clock'.elapsed with generatedAt := clock'.now }) ∧
    ∀ disk collector folders unreadable,
      ofSettings { settings with parallel := true } = .ok collector →
      collector.walker.folders disk = .ok (folders, unreadable) →
      (∀ clock plan, (plan folders.length).Complete folders.length →
        ∃ updates, (collector.collect disk clock plan).progress =
            found folders.length :: updates ∧
          Progress.Covers updates (folders.map Path.label)) ∧
      ∀ turns,
        let workers := (Workers.start folders).run Path.label (collector.attempt disk) turns
        workers.isDone = true → ∃ plan : Plan, (plan folders.length).Complete folders.length ∧
          (collector.loadAll disk plan folders).1 = workers.results ∧
          ∀ clock, ∃ updates, (collector.collect disk clock plan).progress =
              found folders.length :: updates ∧
            workers.progress.Perm updates := by
  refine ⟨?_, runWith_outcome_of_tolerant htolerant, ?_⟩
  · intro folders outcome turns work workers hdone
    obtain ⟨schedule, hcomplete, hresults, hprogress⟩ :=
      Workers.exists_schedule_of_isDone Path.label work folders turns hdone
    exact ⟨hresults, (hcomplete.covers_ticks Path.label).of_perm hprogress⟩
  · intro disk collector folders unreadable hcollector hfolders
    have hsettings := (fields_of_ofSettings hcollector).1
    have hparallel : collector.settings.parallel = true := by rw [hsettings]
    have htolerant : collector.settings.failFast = false := by rw [hsettings, htolerant]
    have hprogress (clock : Clock) (plan : Plan) :
        (collector.collect disk clock plan).progress = found folders.length ::
          (plan folders.length).ticks Path.label folders := by
      rw [collect_progress_of_tolerant htolerant hfolders, loadAll_of_parallel hparallel]
      rfl
    refine ⟨?_, ?_⟩
    · intro clock plan hcomplete
      exact ⟨_, hprogress clock plan, hcomplete.covers_ticks Path.label⟩
    · intro turns workers hdone
      obtain ⟨schedule, hcomplete, hresults, htold⟩ := Workers.exists_schedule_of_isDone
        Path.label (collector.attempt disk) folders turns hdone
      refine ⟨fun _ => schedule, hcomplete, ?_, fun clock => ?_⟩
      · rw [loadAll_of_parallel hparallel]
        exact hresults.symm
      · exact ⟨_, hprogress clock fun _ => schedule, htold⟩

open Neighbours in
/-- Here the folder that has the first number is told of last. -/
theorem tolerant_agrees_in_parallel_neighbours :
    let collector := oneByOneCollector.withParallel true
    let folders := ["/button", "/card"]
    let workers := (Workers.start folders).run Path.label (collector.attempt Neighbours.disk)
      [0, 1, 1, 0, 0, 1]
    oneByOne.failFast = false ∧
      ofSettings { oneByOne with parallel := true } = .ok collector ∧
      collector.walker.folders Neighbours.disk = .ok (folders, []) ∧
      workers.isDone = true ∧
      workers.progress = [⟨2, 2, Path.label "/button"⟩, ⟨1, 2, Path.label "/card"⟩] ∧
      ∃ plan : Plan, (plan 2).Complete 2 ∧
        (collector.loadAll Neighbours.disk plan folders).1 = workers.results ∧
        ∀ clock, ∃ updates, (collector.collect Neighbours.disk clock plan).progress =
            found 2 :: updates ∧
          workers.progress.Perm updates := by
  intro collector folders workers
  have htolerant : oneByOne.failFast = false := rfl
  have hcollector : ofSettings { oneByOne with parallel := true } = .ok collector := rfl
  have hdone : workers.isDone = true := rfl
  obtain ⟨-, -, hworkers⟩ := tolerant_agrees_in_parallel htolerant
  obtain ⟨-, hturns⟩ := hworkers Neighbours.disk collector folders [] hcollector
    folders_oneByOneCollector
  exact ⟨htolerant, hcollector, folders_oneByOneCollector, hdone, rfl, hturns _ hdone⟩

/-! ## Strict runs -/

/-- Nothing failed before the first folder. -/
def Unhindered (collector : Collector) (disk : Disk) (unreadable : List Unreadable) : Prop :=
  unreadable = [] ∧
    ∃ options, collector.loader.loadGlobal disk collector.walker.root = .ok options

def completed (collector : Collector) (disk : Disk) (clock : Clock) (folders : List String) :
    Results :=
  ((Schedule.successes (folders.map fun folder =>
      (collector.loader.load disk folder).outcome)).foldl Results.addComponent
    { Results.start collector.walker.root clock.now with
      global := collector.global? disk }).setDuration clock.elapsed

/-- A strict run that is hindered ends before the work on folders begins. -/
theorem exists_fault_of_hindered (hstrict : collector.settings.failFast = true)
    (hfolders : collector.walker.folders disk = .ok (folders, unreadable))
    (hhindered : ¬ collector.Unhindered disk unreadable) :
    ∃ fault, ∀ parallel clock plan,
      ((collector.withParallel parallel).collect disk clock plan).outcome = .error fault := by
  have hwalk (parallel : Bool) : (collector.withParallel parallel).walker.folders disk =
      .ok (folders, unreadable) := hfolders
  have hfailFast (parallel : Bool) : (collector.withParallel parallel).settings.failFast = true :=
    hstrict
  cases unreadable with
  | cons u rest =>
      refine ⟨u.fault, fun parallel clock plan => ?_⟩
      simp only [collect, collectListed, hwalk, hfailFast, if_true, strict]
  | nil =>
      cases hglobal : collector.loader.loadGlobal disk collector.walker.root with
      | ok options => exact absurd ⟨rfl, options, hglobal⟩ hhindered
      | error fault =>
          refine ⟨fault, fun parallel clock plan => ?_⟩
          have hsame : (collector.withParallel parallel).loader.loadGlobal disk
              (collector.withParallel parallel).walker.root = .error fault := hglobal
          simp only [collect, collectListed, hwalk, hfailFast, if_true, strict, hsame]

end Collector

theorem eq_error_of_fault? {outcome : Except Fault α} {fault : Fault}
    (h : fault? outcome = some fault) : outcome = .error fault := by
  cases outcome with
  | ok a => cases h
  | error other => rw [Option.some.inj h]

namespace Schedule

/-- A schedule by which work may go that may fail: items that have not been begun when one fails
are left, and without a failure none is left. -/
structure Admits (schedule : Schedule) (work : α → Except Fault β) (items : List α) : Prop where
  nodup : schedule.Nodup
  lt : ∀ index ∈ schedule, index < items.length
  ends : schedule.Complete items.length ∨
    ∃ item ∈ schedule.finished items, (fault? (work item)).isSome

theorem Complete.admits {schedule : Schedule} {items : List α}
    (h : schedule.Complete items.length) (work : α → Except Fault β) :
    schedule.Admits work items := by
  refine ⟨h.nodup_iff.mpr List.nodup_range, fun index hindex => ?_, .inl h⟩
  exact List.mem_range.mp (h.subset hindex)

theorem mem_of_mem_finished {schedule : Schedule} {items : List α} {item : α}
    (h : item ∈ schedule.finished items) : item ∈ items := by
  obtain ⟨index, -, hindex⟩ := List.mem_filterMap.mp h
  exact List.mem_of_getElem? hindex

end Schedule

namespace Collector

variable {collector : Collector} {disk : Disk} {folders : List String}
  {unreadable : List Unreadable}

theorem firstFault_append_cons {before after : List String} {folder : String} {fault : Fault}
    (hbefore : ∀ earlier ∈ before, collector.Loads disk earlier)
    (hfault : (collector.loader.load disk folder).outcome = .error fault) :
    Schedule.firstFault ((before ++ folder :: after).map
      fun folder => (collector.loader.load disk folder).outcome) = some fault := by
  induction before with
  | nil => rw [List.nil_append, List.map_cons, hfault, Schedule.firstFault]
  | cons earlier rest ih =>
      obtain ⟨⟨component, hload⟩, hrest⟩ := List.forall_mem_cons.mp hbefore
      rw [List.cons_append, List.map_cons, hload, Schedule.firstFault]
      exact ih hrest

theorem firstFault_upToFailure_eq (collector : Collector) (disk : Disk) (folders : List String) :
    Schedule.firstFault ((collector.upToFailure disk folders).map
        fun folder => (collector.loader.load disk folder).outcome) =
      Schedule.firstFault (folders.map
        fun folder => (collector.loader.load disk folder).outcome) := by
  rcases collector.loads_or_exists_first disk folders with
    hloads | ⟨before, folder, after, fault, rfl, hbefore, hfault⟩
  · rw [upToFailure_of_loads hloads]
  · rw [firstFault_upToFailure hbefore hfault, firstFault_append_cons hbefore hfault]

/-- The folders in the order that decides how a strict run ends. -/
def decisive (collector : Collector) (plan : Plan) (folders : List String) : List String :=
  if collector.settings.parallel then (plan folders.length).finished folders else folders

section Ends

variable (hstrict : collector.settings.failFast = true)
  (hfolders : collector.walker.folders disk = .ok (folders, unreadable))
  (hunhindered : collector.Unhindered disk unreadable) (clock : Clock) (plan : Plan)

include hstrict hfolders hunhindered

theorem collect_outcome_of_strict :
    (collector.collect disk clock plan).outcome =
      match Schedule.firstFault ((collector.decisive plan folders).map
        fun folder => (collector.loader.load disk folder).outcome) with
      | some fault => .error fault
      | none => .ok (collector.completed disk clock folders) := by
  obtain ⟨rfl, options, hglobal⟩ := hunhindered
  have hoptions : collector.global? disk = options := by
    rw [global?, hglobal]
    rfl
  have hfirst : Schedule.firstFault
      (((collector.strictSchedule disk plan folders).finished folders).map
        fun folder => (collector.loader.load disk folder).outcome) =
      Schedule.firstFault ((collector.decisive plan folders).map
        fun folder => (collector.loader.load disk folder).outcome) := by
    cases hparallel : collector.settings.parallel with
    | true => rw [strictSchedule, decisive, hparallel, if_pos rfl, if_pos rfl]
    | false =>
        rw [finished_strictSchedule hparallel, firstFault_upToFailure_eq, decisive, hparallel,
          if_neg Bool.false_ne_true]
  simp only [collect, collectListed, hfolders, hstrict, if_true, strict, hglobal, loadAllOrFail,
    Schedule.runOrFail, completed, hoptions, hfirst]
  cases Schedule.firstFault _ <;> rfl

theorem collect_outcome_of_first {before after : List String} {folder : String} {fault : Fault}
    (hdecisive : collector.decisive plan folders = before ++ folder :: after)
    (hbefore : ∀ earlier ∈ before, collector.Loads disk earlier)
    (hfault : (collector.loader.load disk folder).outcome = .error fault) :
    (collector.collect disk clock plan).outcome = .error fault := by
  rw [collect_outcome_of_strict hstrict hfolders hunhindered, hdecisive,
    firstFault_append_cons hbefore hfault]

theorem collect_outcome_of_loads
    (hloads : ∀ folder ∈ collector.decisive plan folders, collector.Loads disk folder) :
    (collector.collect disk clock plan).outcome = .ok (collector.completed disk clock folders) := by
  rw [collect_outcome_of_strict hstrict hfolders hunhindered, firstFault_of_loads hloads]

/-- A folder that fails is, by some schedule, the first to finish. -/
theorem exists_complete_ending_with (hparallel : collector.settings.parallel = true)
    {folder : String} {fault : Fault} (hfolder : folder ∈ folders)
    (hfault : (collector.loader.load disk folder).outcome = .error fault) :
    ∃ schedule : Schedule, schedule.Complete folders.length ∧
      (collector.collect disk clock fun _ => schedule).outcome = .error fault := by
  obtain ⟨schedule, hcomplete, hfinished⟩ :=
    Schedule.exists_complete_of_perm (List.perm_cons_erase hfolder).symm
  have hdecisive : collector.decisive (fun _ => schedule) folders =
      [] ++ folder :: folders.erase folder := by
    rw [decisive, hparallel, if_pos rfl, hfinished, List.nil_append]
  have hnone : ∀ earlier ∈ [], collector.Loads disk earlier := fun _ h => nomatch h
  exact ⟨schedule, hcomplete,
    collect_outcome_of_first hstrict hfolders hunhindered clock _ hdecisive hnone hfault⟩

/-- A run in parallel comes to a folder that fails if there is one. -/
theorem exists_fault_of_admits (hparallel : collector.settings.parallel = true)
    (hadmits : (plan folders.length).Admits
      (fun folder => (collector.loader.load disk folder).outcome) folders)
    {folder : String} (hfolder : folder ∈ folders) (hfails : ¬ collector.Loads disk folder) :
    ∃ other ∈ folders, ∃ fault, (collector.loader.load disk other).outcome = .error fault ∧
      (collector.collect disk clock plan).outcome = .error fault := by
  have hdecisive : collector.decisive plan folders = (plan folders.length).finished folders := by
    rw [decisive, hparallel, if_pos rfl]
  rcases collector.loads_or_exists_first disk (collector.decisive plan folders) with
    hloads | ⟨before, other, after, fault, hsplit, hbefore, hfault⟩
  · rw [hdecisive] at hloads
    rcases hadmits.ends with hcomplete | ⟨failing, hfailing, hfault⟩
    · exact absurd (hloads folder (hcomplete.finished_perm.mem_iff.mpr hfolder)) hfails
    · rw [(hloads failing hfailing).fault?_eq_none] at hfault
      cases hfault
  · have hother : other ∈ (plan folders.length).finished folders := by
      rw [← hdecisive, hsplit]
      exact List.mem_append_right _ List.mem_cons_self
    exact ⟨other, Schedule.mem_of_mem_finished hother, fault, hfault,
      collect_outcome_of_first hstrict hfolders hunhindered clock plan hsplit hbefore hfault⟩

end Ends

/-- All folders that fail do so with one failure. -/
def OneFault (collector : Collector) (disk : Disk) (folders : List String) : Prop :=
  ∀ folder ∈ folders, ∀ other ∈ folders, ∀ fault fault',
    (collector.loader.load disk folder).outcome = .error fault →
      (collector.loader.load disk other).outcome = .error fault' → fault = fault'

section Agreement

variable (hstrict : collector.settings.failFast = true)
  (hfolders : collector.walker.folders disk = .ok (folders, unreadable))
  (hunhindered : collector.Unhindered disk unreadable)

include hstrict hfolders hunhindered

/-- With one failure it does not matter which of the folders that fail comes first. -/
theorem outcome_withParallel_of_oneFault (hone : collector.OneFault disk folders) (clock : Clock)
    (plan plan' : Plan)
    (hadmits : (plan folders.length).Admits
      (fun folder => (collector.loader.load disk folder).outcome) folders) :
    ((collector.withParallel true).collect disk clock plan).outcome =
      ((collector.withParallel false).collect disk clock plan').outcome := by
  have hfailFast (parallel : Bool) : (collector.withParallel parallel).settings.failFast = true :=
    hstrict
  have hwalk (parallel : Bool) : (collector.withParallel parallel).walker.folders disk =
      .ok (folders, unreadable) := hfolders
  rcases collector.loads_or_exists_first disk folders with
    hloads | ⟨before, folder, after, fault, hsplit, hbefore, hfault⟩
  · have hfinished : ∀ folder ∈ (plan folders.length).finished folders,
        collector.Loads disk folder :=
      fun folder hfolder => hloads folder (Schedule.mem_of_mem_finished hfolder)
    have htrue := collect_outcome_of_loads (hfailFast true) (hwalk true) hunhindered clock plan
      hfinished
    have hfalse := collect_outcome_of_loads (hfailFast false) (hwalk false) hunhindered clock
      plan' hloads
    exact htrue.trans hfalse.symm
  · have hfolder : folder ∈ folders := by
      rw [hsplit]
      exact List.mem_append_right _ List.mem_cons_self
    have hfails : ¬ collector.Loads disk folder := by
      rintro ⟨component, hload⟩
      rw [hfault] at hload
      cases hload
    have hparallel : (collector.withParallel true).settings.parallel = true := rfl
    obtain ⟨other, hother, fault', hfault', htrue⟩ := exists_fault_of_admits (hfailFast true)
      (hwalk true) hunhindered clock plan hparallel hadmits hfolder hfails
    have hfalse := collect_outcome_of_first (hfailFast false) (hwalk false) hunhindered clock plan'
      hsplit hbefore hfault
    rw [htrue, hone other hother folder hfolder fault' fault hfault' hfault]
    exact hfalse.symm

/-- Of each folder that fails there is a schedule by which it is the one that counts. -/
theorem oneFault_of_outcome_withParallel
    (hagree : ∀ clock plan plan', (plan folders.length).Admits
        (fun folder => (collector.loader.load disk folder).outcome) folders →
      ((collector.withParallel true).collect disk clock plan).outcome =
        ((collector.withParallel false).collect disk clock plan').outcome) :
    collector.OneFault disk folders := by
  have hends : ∀ folder ∈ folders, ∀ fault,
      (collector.loader.load disk folder).outcome = .error fault →
        ((collector.withParallel false).collect disk default Schedule.inOrder).outcome =
          .error fault := by
    intro folder hfolder fault hfault
    have hfailFast : (collector.withParallel true).settings.failFast = true := hstrict
    have hwalk : (collector.withParallel true).walker.folders disk = .ok (folders, unreadable) :=
      hfolders
    have hparallel : (collector.withParallel true).settings.parallel = true := rfl
    obtain ⟨schedule, hcomplete, hend⟩ := exists_complete_ending_with hfailFast hwalk hunhindered
      default hparallel hfolder hfault
    rw [← hagree default (fun _ => schedule) Schedule.inOrder (hcomplete.admits _)]
    exact hend
  intro folder hfolder other hother fault fault' hfault hfault'
  have hfirst := hends folder hfolder fault hfault
  rw [hends other hother fault' hfault'] at hfirst
  exact (Except.error.inj hfirst).symm

end Agreement

/-- In parallel a strict run ends with the failure that comes first in time.  It ends like one
that takes folder after folder, in whatever order folders finish, just when it ends before the
first folder or all folders that fail do so with one failure. -/
theorem strict_in_parallel {settings : Settings} (hstrict : settings.failFast = true)
    (hcollector : ofSettings settings = .ok collector)
    (hfolders : collector.walker.folders disk = .ok (folders, unreadable)) :
    let load := fun folder => (collector.loader.load disk folder).outcome
    let ending := fun parallel clock plan =>
      (runWith { settings with parallel } disk clock plan).outcome
    (collector.Unhindered disk unreadable → ∀ clock plan before folder after fault,
      (plan folders.length).finished folders = before ++ folder :: after →
      (∀ earlier ∈ before, collector.Loads disk earlier) → load folder = .error fault →
      ending true clock plan = .error fault) ∧
    ((∀ clock plan plan', (plan folders.length).Admits load folders →
        ending true clock plan = ending false clock plan') ↔
      ¬ collector.Unhindered disk unreadable ∨ collector.OneFault disk folders) := by
  intro load ending
  have hfailFast : collector.settings.failFast = true := by
    rw [(fields_of_ofSettings hcollector).1, hstrict]
  have hending (parallel : Bool) (clock : Clock) (plan : Plan) : ending parallel clock plan =
      ((collector.withParallel parallel).collect disk clock plan).outcome := by
    simp only [ending, runWith, ofSettings_parallel, hcollector, Except.map]
  simp only [hending]
  refine ⟨?_, ?_, ?_⟩
  · intro hunhindered clock plan before folder after fault hfinished hbefore hfault
    have hstrict : (collector.withParallel true).settings.failFast = true := hfailFast
    have hwalk : (collector.withParallel true).walker.folders disk = .ok (folders, unreadable) :=
      hfolders
    exact collect_outcome_of_first hstrict hwalk hunhindered clock plan hfinished hbefore hfault
  · intro hagree
    by_cases hunhindered : collector.Unhindered disk unreadable
    · exact .inr (oneFault_of_outcome_withParallel hfailFast hfolders hunhindered hagree)
    · exact .inl hunhindered
  · intro hone clock plan plan' hadmits
    by_cases hunhindered : collector.Unhindered disk unreadable
    · have hone := hone.resolve_left (not_not_intro hunhindered)
      exact outcome_withParallel_of_oneFault hfailFast hfolders hunhindered hone clock plan plan'
        hadmits
    · obtain ⟨fault, hfails⟩ := exists_fault_of_hindered hfailFast hfolders hunhindered
      rw [hfails true clock plan, hfails false clock plan']

namespace Neighbours

/-- Both folders fail, and the second is the first to finish. -/
def secondFirst : Schedule := [1, 0]

def strictly : Settings := { oneByOne with failFast := true }

def strictCollector : Collector := oneByOneCollector.withFailFast true

def notFound : Fault :=
  .notFound ["/button/readme.ts", "/button/readme.tsx", "/button/readme.js"]

def notText : Fault := .sourceRead "/card/readme.js" "stream did not contain valid UTF-8"

theorem secondFirst_complete : secondFirst.Complete 2 := by decide

theorem ofSettings_strictly : ofSettings strictly = .ok strictCollector := rfl

theorem folders_strictCollector :
    strictCollector.walker.folders Neighbours.disk = .ok (["/button", "/card"], []) :=
  folders_oneByOneCollector

theorem strict_unhindered : strictCollector.Unhindered Neighbours.disk [] := by
  have hok : (strictCollector.loader.loadGlobal Neighbours.disk "/").isOk = true := by
    decide +kernel
  refine ⟨rfl, ?_⟩
  cases hglobal : strictCollector.loader.loadGlobal Neighbours.disk "/" with
  | ok options => exact ⟨options, hglobal⟩
  | error fault =>
      rw [hglobal] at hok
      cases hok

theorem load_button :
    (strictCollector.loader.load Neighbours.disk "/button").outcome = .error notFound :=
  eq_error_of_fault? (by decide +kernel)

theorem load_card :
    (strictCollector.loader.load Neighbours.disk "/card").outcome = .error notText :=
  eq_error_of_fault? (by decide +kernel)

end Neighbours

open Neighbours in
theorem strict_in_parallel_neighbours :
    strictly.failFast = true ∧ ofSettings strictly = .ok strictCollector ∧
      strictCollector.walker.folders Neighbours.disk = .ok (["/button", "/card"], []) ∧
      strictCollector.Unhindered Neighbours.disk [] ∧
      (runWith { strictly with parallel := true } Neighbours.disk default
        fun _ => secondFirst).outcome = .error notText := by
  have hstrict : strictly.failFast = true := rfl
  obtain ⟨hfirst, -⟩ := strict_in_parallel hstrict ofSettings_strictly folders_strictCollector
  have hnone : ∀ earlier ∈ [], strictCollector.Loads Neighbours.disk earlier :=
    fun _ h => nomatch h
  exact ⟨hstrict, ofSettings_strictly, folders_strictCollector, strict_unhindered,
    hfirst strict_unhindered default _ [] "/card" ["/button"] notText rfl hnone load_card⟩

open Neighbours in
/-- The failure that comes first in the order of the names is not always the one that ends a
strict run in parallel. -/
theorem exists_schedule_ending_with_other :
    secondFirst.Admits (fun folder => (strictCollector.loader.load Neighbours.disk folder).outcome)
        ["/button", "/card"] ∧
      (runWith strictly Neighbours.disk default
        Schedule.inOrder).outcome = .error notFound ∧
      (runWith { strictly with parallel := true } Neighbours.disk default
        fun _ => secondFirst).outcome = .error notText ∧
      (runWith { strictly with parallel := true } Neighbours.disk default
        fun _ => secondFirst).outcome ≠
      (runWith strictly Neighbours.disk default
        Schedule.inOrder).outcome := by
  have hnone : ∀ earlier ∈ [], strictCollector.Loads Neighbours.disk earlier :=
    fun _ h => nomatch h
  have hsequential : (runWith strictly Neighbours.disk default
      Schedule.inOrder).outcome = .error notFound := by
    rw [runWith_of_ofSettings ofSettings_strictly]
    exact collect_outcome_of_first rfl folders_strictCollector strict_unhindered default _ rfl
      hnone load_button
  have hparallel : (runWith { strictly with parallel := true } Neighbours.disk
      default fun _ => secondFirst).outcome = .error notText := by
    have hcollector : ofSettings { strictly with parallel := true } =
        .ok (strictCollector.withParallel true) := rfl
    have hwalk : (strictCollector.withParallel true).walker.folders Neighbours.disk = _ :=
      folders_strictCollector
    have hsecond : (strictCollector.withParallel true).decisive (fun _ => secondFirst)
        ["/button", "/card"] = [] ++ "/card" :: ["/button"] := rfl
    rw [runWith_of_ofSettings hcollector]
    exact collect_outcome_of_first rfl hwalk strict_unhindered default _ hsecond hnone load_card
  refine ⟨secondFirst_complete.admits _, hsequential, hparallel, ?_⟩
  rw [hparallel, hsequential]
  exact fun h => nomatch h

end Collector

end Showcase
