import Showcase.Proofs.Collection.Accounts

namespace Showcase

/-!
# Strict runs

A strict run goes the way of a tolerant one as far as the first failure that the tolerant
run records, and ends with it.  Without a failure both have the same results.
-/

/-! ## One folder after the other -/

namespace Schedule

theorem finished_inOrder (count : Nat) (items : List α) :
    (inOrder count).finished items = items.take count := by
  induction count with
  | zero => rfl
  | succ count ih =>
      simp only [inOrder, finished] at ih ⊢
      rw [List.range_succ, List.filterMap_append, ih, List.take_add_one]
      cases hitem : items[count]? <;> simp [hitem]

theorem firstFault_eq_head? (results : List (Except Fault β)) :
    firstFault results = (results.filterMap fault?).head? := by
  induction results with
  | nil => rfl
  | cons result rest ih =>
      cases result with
      | error fault => rfl
      | ok b => exact ih

theorem successes_eq_filterMap (results : List (Except Fault β)) :
    successes results = results.filterMap Except.toOption := by
  refine List.filterMap_congr fun result _ => ?_
  cases result <;> rfl

end Schedule

namespace Collector

variable {collector : Collector} {disk : Disk} {folders : List String}
  {unreadable : List Unreadable}

/-- Whether a folder can be loaded. -/
def Loads (collector : Collector) (disk : Disk) (folder : String) : Prop :=
  ∃ component, (collector.loader.load disk folder).outcome = .ok component

theorem Loads.fault?_eq_none {folder : String} (h : collector.Loads disk folder) :
    fault? (collector.loader.load disk folder).outcome = none := by
  obtain ⟨component, hload⟩ := h
  rw [hload]
  rfl

/-- Either every folder can be loaded, or there is a first one that cannot. -/
theorem loads_or_exists_first (collector : Collector) (disk : Disk) (folders : List String) :
    (∀ folder ∈ folders, collector.Loads disk folder) ∨
      ∃ before folder after fault, folders = before ++ folder :: after ∧
        (∀ earlier ∈ before, collector.Loads disk earlier) ∧
        (collector.loader.load disk folder).outcome = .error fault := by
  induction folders with
  | nil => exact .inl fun folder hfolder => nomatch hfolder
  | cons folder rest ih =>
      cases hload : (collector.loader.load disk folder).outcome with
      | error fault => exact .inr ⟨[], folder, rest, fault, rfl, (fun _ h => nomatch h), hload⟩
      | ok component =>
          rcases ih with hrest | ⟨before, failing, after, fault, rfl, hbefore, hfault⟩
          · exact .inl (List.forall_mem_cons.mpr ⟨⟨component, hload⟩, hrest⟩)
          · exact .inr ⟨folder :: before, failing, after, fault, rfl,
              List.forall_mem_cons.mpr ⟨⟨component, hload⟩, hbefore⟩, hfault⟩

theorem upToFailure_prefix (collector : Collector) (disk : Disk) (folders : List String) :
    collector.upToFailure disk folders <+: folders := by
  induction folders with
  | nil => exact List.prefix_rfl
  | cons folder rest ih =>
      unfold upToFailure
      split
      · exact List.cons_prefix_cons.mpr ⟨rfl, ih⟩
      · exact List.cons_prefix_cons.mpr ⟨rfl, List.nil_prefix⟩

theorem upToFailure_of_loads (h : ∀ folder ∈ folders, collector.Loads disk folder) :
    collector.upToFailure disk folders = folders := by
  induction folders with
  | nil => rfl
  | cons folder rest ih =>
      obtain ⟨⟨component, hload⟩, hrest⟩ := List.forall_mem_cons.mp h
      rw [upToFailure, hload, ih hrest]

theorem upToFailure_append_cons {before after : List String} {folder : String} {fault : Fault}
    (hbefore : ∀ earlier ∈ before, collector.Loads disk earlier)
    (hfault : (collector.loader.load disk folder).outcome = .error fault) :
    collector.upToFailure disk (before ++ folder :: after) = before ++ [folder] := by
  induction before with
  | nil => rw [List.nil_append, upToFailure, hfault, List.nil_append]
  | cons earlier rest ih =>
      obtain ⟨⟨component, hload⟩, hrest⟩ := List.forall_mem_cons.mp hbefore
      rw [List.cons_append, upToFailure, hload, ih hrest, List.cons_append]

theorem finished_strictSchedule (hparallel : collector.settings.parallel = false)
    (plan : Plan) (folders : List String) :
    (collector.strictSchedule disk plan folders).finished folders =
      collector.upToFailure disk folders := by
  rw [strictSchedule, hparallel, if_neg Bool.false_ne_true, Schedule.finished_inOrder]
  exact (List.prefix_iff_eq_take.mp (collector.upToFailure_prefix disk folders)).symm

/-- The first failure among the folders up to the first that fails. -/
theorem firstFault_upToFailure {before after : List String} {folder : String} {fault : Fault}
    (hbefore : ∀ earlier ∈ before, collector.Loads disk earlier)
    (hfault : (collector.loader.load disk folder).outcome = .error fault) :
    Schedule.firstFault ((collector.upToFailure disk (before ++ folder :: after)).map
      fun folder => (collector.loader.load disk folder).outcome) = some fault := by
  have hnone : before.filterMap
      (fault? ∘ fun folder => (collector.loader.load disk folder).outcome) = [] :=
    List.filterMap_eq_nil_iff.mpr fun earlier hearlier => (hbefore earlier hearlier).fault?_eq_none
  rw [upToFailure_append_cons hbefore hfault, Schedule.firstFault_eq_head?, List.filterMap_map,
    List.filterMap_append, hnone]
  simp [hfault, fault?]

theorem firstFault_of_loads (h : ∀ folder ∈ folders, collector.Loads disk folder) :
    Schedule.firstFault (folders.map
      fun folder => (collector.loader.load disk folder).outcome) = none := by
  have hnone : folders.filterMap
      (fault? ∘ fun folder => (collector.loader.load disk folder).outcome) = [] :=
    List.filterMap_eq_nil_iff.mpr fun folder hfolder => (h folder hfolder).fault?_eq_none
  rw [Schedule.firstFault_eq_head?, List.filterMap_map, hnone]
  rfl

theorem loadAllOrFail_stopped (hparallel : collector.settings.parallel = false)
    {before after : List String} {folder : String} {fault : Fault}
    (hbefore : ∀ earlier ∈ before, collector.Loads disk earlier)
    (hfault : (collector.loader.load disk folder).outcome = .error fault) (plan : Plan) :
    collector.loadAllOrFail disk plan (before ++ folder :: after) =
      (.error fault, Schedule.ticksFrom (before ++ folder :: after).length 0
        ((before ++ [folder]).map Path.label)) := by
  rw [loadAllOrFail, Schedule.runOrFail, Schedule.ticks, finished_strictSchedule hparallel,
    firstFault_upToFailure hbefore hfault, upToFailure_append_cons hbefore hfault]

theorem loadAllOrFail_completed (hparallel : collector.settings.parallel = false)
    (h : ∀ folder ∈ folders, collector.Loads disk folder) (plan : Plan) :
    collector.loadAllOrFail disk plan folders =
      (.ok (folders.filterMap fun folder => (collector.loader.load disk folder).outcome.toOption),
        Schedule.ticksFrom folders.length 0 (folders.map Path.label)) := by
  rw [loadAllOrFail, Schedule.runOrFail, Schedule.ticks, finished_strictSchedule hparallel,
    upToFailure_of_loads h, firstFault_of_loads h, Schedule.successes_eq_filterMap,
    List.filterMap_map]
  rfl

/-! ## The first failure -/

/-- How a strict run ends with a failure, and the error as which a tolerant run records it.
Only the folders up to the failing one are loaded and told of, and none if the failure comes
before the first folder. -/
inductive Stopped (collector : Collector) (disk : Disk) (folders : List String) :
    List Unreadable → FolderError → Run → Prop
  | listing (u : Unreadable) (rest : List Unreadable) :
      Stopped collector disk folders (u :: rest) (.ofFault u.path u.fault) ⟨.error u.fault, [], []⟩
  | global {fault : Fault}
      (hglobal : collector.loader.loadGlobal disk collector.walker.root = .error fault) :
      Stopped collector disk folders [] (.ofFault collector.walker.root fault)
        ⟨.error fault, [], []⟩
  | folder {options : Option GlobalOptions} {before after : List String} {folder : String}
      {fault : Fault}
      (hglobal : collector.loader.loadGlobal disk collector.walker.root = .ok options)
      (hfolders : folders = before ++ folder :: after)
      (hbefore : ∀ earlier ∈ before, collector.Loads disk earlier)
      (hfault : (collector.loader.load disk folder).outcome = .error fault) :
      Stopped collector disk folders [] (.ofFault folder fault)
        ⟨.error fault,
          found folders.length ::
            Schedule.ticksFrom folders.length 0 ((before ++ [folder]).map Path.label),
          collector.loadNotices disk (before ++ [folder])⟩

theorem Stopped.exists_fault {first : FolderError} {run : Run}
    (h : collector.Stopped disk folders unreadable first run) :
    ∃ fault, run.outcome = .error fault ∧ fault.message = first.message := by
  cases h <;> exact ⟨_, rfl, rfl⟩

/-- The errors that the folders are recorded with. -/
theorem filterMap_fault?_of_loads (h : ∀ folder ∈ folders, collector.Loads disk folder) :
    (folders.filterMap fun folder =>
      (fault? (collector.loader.load disk folder).outcome).map (.ofFault folder)) =
        ([] : List FolderError) := by
  refine List.filterMap_eq_nil_iff.mpr fun folder hfolder => ?_
  rw [(h folder hfolder).fault?_eq_none]
  rfl

/-- Of the failures that a tolerant run records, a strict run ends with the first. -/
theorem collect_stopped (hstrict : collector.settings.failFast = true)
    (hparallel : collector.settings.parallel = false)
    (hfolders : collector.walker.folders disk = .ok (folders, unreadable))
    {results : Results} (haccounts : results.Accounts collector disk folders unreadable)
    {first : FolderError} {rest : List FolderError} (herrors : results.errors = first :: rest)
    (clock : Clock) (plan : Plan) :
    collector.Stopped disk folders unreadable first (collector.collect disk clock plan) := by
  rw [haccounts.errors] at herrors
  simp only [collect, collectListed, hfolders, hstrict, if_true, strict]
  -- The run looks for failures in the order in which the errors are recorded.
  cases unreadable with
  | cons u more =>
      obtain ⟨rfl, -⟩ := List.cons.inj herrors
      exact .listing u more
  | nil =>
      cases hglobal : collector.loader.loadGlobal disk collector.walker.root with
      | error fault =>
          rw [hglobal] at herrors
          obtain ⟨rfl, -⟩ := List.cons.inj herrors
          exact .global hglobal
      | ok options =>
          have herrors : (folders.filterMap fun folder =>
              (fault? (collector.loader.load disk folder).outcome).map (.ofFault folder)) =
                first :: rest := by
            rwa [hglobal] at herrors
          rcases collector.loads_or_exists_first disk folders with
            hloads | ⟨before, folder, after, fault, rfl, hbefore, hfault⟩
          · rw [filterMap_fault?_of_loads hloads] at herrors
            cases herrors
          · rw [List.filterMap_append, filterMap_fault?_of_loads hbefore, List.nil_append,
              List.filterMap_cons, hfault] at herrors
            obtain ⟨rfl, -⟩ := List.cons.inj herrors
            simp only [loadAllOrFail_stopped hparallel hbefore hfault,
              finished_strictSchedule hparallel, upToFailure_append_cons hbefore hfault]
            exact .folder hglobal rfl hbefore hfault

theorem foldl_addComponent_of_loads (results : Results)
    (h : ∀ folder ∈ folders, collector.Loads disk folder) :
    (folders.filterMap fun folder =>
        (collector.loader.load disk folder).outcome.toOption).foldl Results.addComponent results =
      (collector.folderAttempts disk folders).foldl Results.add results := by
  induction folders generalizing results with
  | nil => rfl
  | cons folder rest ih =>
      obtain ⟨⟨component, hload⟩, hrest⟩ := List.forall_mem_cons.mp h
      rw [List.filterMap_cons, folderAttempts, List.map_cons, hload]
      exact ih (results.addComponent component) hrest

/-- Results without errors tell that nothing failed. -/
theorem loads_of_errors_eq_nil {results : Results}
    (haccounts : results.Accounts collector disk folders unreadable)
    (herrors : results.errors = []) :
    unreadable = [] ∧
      (∃ options, collector.loader.loadGlobal disk collector.walker.root = .ok options) ∧
      ∀ folder ∈ folders, collector.Loads disk folder := by
  rw [haccounts.errors] at herrors
  obtain ⟨hearly, hlate⟩ := List.append_eq_nil_iff.mp herrors
  obtain ⟨hunreadable, hroot⟩ := List.append_eq_nil_iff.mp hearly
  refine ⟨List.map_eq_nil_iff.mp hunreadable, ?_, ?_⟩
  · cases hglobal : collector.loader.loadGlobal disk collector.walker.root with
    | ok options => exact ⟨options, rfl⟩
    | error fault =>
        rw [hglobal] at hroot
        cases hroot
  · intro folder hfolder
    have hnone := List.filterMap_eq_nil_iff.mp hlate folder hfolder
    cases hload : (collector.loader.load disk folder).outcome with
    | ok component => exact ⟨component, hload⟩
    | error fault =>
        rw [hload] at hnone
        cases hnone

/-- Without failures a strict run has the results of a tolerant one. -/
theorem collect_completed (hstrict : collector.settings.failFast = true)
    (hparallel : collector.settings.parallel = false)
    (hfolders : collector.walker.folders disk = .ok (folders, unreadable)) (clock : Clock)
    (herrors : (collector.tolerated disk clock folders unreadable).errors = []) (plan : Plan) :
    (collector.collect disk clock plan).outcome =
      .ok (collector.tolerated disk clock folders unreadable) := by
  obtain ⟨rfl, ⟨options, hglobal⟩, hloads⟩ :=
    loads_of_errors_eq_nil (tolerated_accounts clock) herrors
  simp only [collect, collectListed, hfolders, hstrict, if_true, strict, hglobal,
    loadAllOrFail_completed hparallel hloads, foldl_addComponent_of_loads _ hloads]
  simp [tolerated, earlyAttempts, globalAttempts, global?, hglobal, Except.toOption]

/-- Another clock changes the duration and the time of the results and nothing else. -/
theorem tolerated_eq_of_clock (clock other : Clock) :
    collector.tolerated disk other folders unreadable =
      { (collector.tolerated disk clock folders unreadable).setDuration other.elapsed with
        generatedAt := other.now } := by
  have hstart : ({ Results.start collector.walker.root other.now with
        global := collector.global? disk } : Results) =
      { ({ Results.start collector.walker.root clock.now with
        global := collector.global? disk } : Results) with generatedAt := other.now } := rfl
  rw [tolerated, hstart, Results.foldl_add_with_generatedAt]
  rfl

/-! ## Strict and tolerant runs -/

/-- A run with settings, whose patterns are read first. -/
def runWith (settings : Settings) (disk : Disk) (clock : Clock) (plan : Plan) : Run :=
  match ofSettings settings with
  | .error fault => ⟨.error fault, [], []⟩
  | .ok collector => collector.collect disk clock plan

/-- The collector with another way to deal with failures. -/
def withFailFast (collector : Collector) (failFast : Bool) : Collector :=
  { collector with settings := { collector.settings with failFast } }

theorem ofSettings_failFast (settings : Settings) (failFast : Bool) :
    ofSettings { settings with failFast } =
      (ofSettings settings).map fun collector => collector.withFailFast failFast := by
  unfold ofSettings Walker.ofSettings
  cases Walker.patterns settings.excludePatterns <;> rfl

/-- Settings that vary in what the walk does not look at: either there are folders to load, or a
run fails, with all of them. -/
theorem runWith_varied_fails_or_lists {ι : Type} {varied : ι → Settings}
    {on : ι → Collector → Collector} {settings : Settings}
    (hvaried : ∀ i, ofSettings (varied i) = (ofSettings settings).map (on i))
    (hwalker : ∀ i collector, (on i collector).walker = collector.walker) (disk : Disk) :
    (∃ fault, ∀ i clock plan, runWith (varied i) disk clock plan = ⟨.error fault, [], []⟩) ∨
      ∃ (collector : Collector) (folders : List String) (unreadable : List Unreadable),
        collector.settings = settings ∧
        collector.walker.folders disk = .ok (folders, unreadable) ∧
        ∀ i, ofSettings (varied i) = .ok (on i collector) := by
  cases hcollector : ofSettings settings with
  | error fault =>
      refine .inl ⟨fault, fun i clock plan => ?_⟩
      rw [runWith, hvaried, hcollector]
      rfl
  | ok collector =>
      have hon (i : ι) : ofSettings (varied i) = .ok (on i collector) := by
        rw [hvaried, hcollector]
        rfl
      cases hfolders : collector.walker.folders disk with
      | error fault =>
          refine .inl ⟨fault, fun i clock plan => ?_⟩
          have hwalk : (on i collector).walker.folders disk = .error fault := by
            rw [hwalker, hfolders]
          simp only [runWith, hon, collect, collectListed, hwalk]
      | ok listed =>
          exact .inr ⟨collector, listed.1, listed.2, (fields_of_ofSettings hcollector).1, hfolders,
            hon⟩

theorem runWith_fails_or_lists (settings : Settings) (disk : Disk) :
    (∃ fault, ∀ failFast clock plan,
      runWith { settings with failFast } disk clock plan = ⟨.error fault, [], []⟩) ∨
      ∃ (collector : Collector) (folders : List String) (unreadable : List Unreadable),
        collector.settings = settings ∧
        collector.walker.folders disk = .ok (folders, unreadable) ∧
        ∀ failFast, ofSettings { settings with failFast } =
          .ok (collector.withFailFast failFast) :=
  runWith_varied_fails_or_lists (ofSettings_failFast settings) (fun _ _ => rfl) disk

/-- One folder after the other, a strict run has the outcome of a tolerant one unless the
tolerant one records a failure.  Then it ends with the first recorded failure, and it has
loaded and told of the folders up to the one that failed. -/
theorem strict_ends_with_first_error {settings : Settings} (hparallel : settings.parallel = false)
    (disk : Disk) (clock clock' : Clock) (plan plan' : Plan) :
    let lenient := runWith { settings with failFast := false } disk clock plan
    let strict := runWith { settings with failFast := true } disk clock' plan'
    (∀ fault, lenient.outcome = .error fault → strict.outcome = .error fault) ∧
      (∀ results, lenient.outcome = .ok results → results.errors = [] →
        strict.outcome = .ok
          { results.setDuration clock'.elapsed with generatedAt := clock'.now }) ∧
      ∀ results first rest, lenient.outcome = .ok results → results.errors = first :: rest →
        (∃ fault, strict.outcome = .error fault ∧ fault.message = first.message) ∧
          ∃ collector folders unreadable,
            ofSettings { settings with failFast := true } = .ok collector ∧
              collector.walker.folders disk = .ok (folders, unreadable) ∧
              collector.Stopped disk folders unreadable first strict := by
  intro lenient strict
  rcases runWith_fails_or_lists settings disk with
    ⟨fault, hfails⟩ | ⟨collector, folders, unreadable, rfl, hfolders, hfailFast⟩
  · have hlenient : lenient = ⟨.error fault, [], []⟩ := hfails false clock plan
    have hstrict : strict = ⟨.error fault, [], []⟩ := hfails true clock' plan'
    rw [hlenient, hstrict]
    exact ⟨fun _ h => h, nofun, nofun⟩
  · have hlenient : lenient = (collector.withFailFast false).collect disk clock plan := by
      simp only [lenient, runWith, hfailFast]
    have hstrict : strict = (collector.withFailFast true).collect disk clock' plan' := by
      simp only [strict, runWith, hfailFast]
    have hwalk (failFast : Bool) : (collector.withFailFast failFast).walker.folders disk =
        .ok (folders, unreadable) := hfolders
    -- Both collectors attempt the same, so the results of one account for the other.
    have htrue : (collector.withFailFast true).settings.failFast = true := rfl
    let results := (collector.withFailFast true).tolerated disk clock folders unreadable
    have hresults : lenient.outcome = .ok results := by
      rw [hlenient]
      exact collect_outcome_of_tolerant rfl (hwalk false) clock plan
    rw [hresults, hstrict]
    refine ⟨nofun, ?_, ?_⟩
    · rintro _ ⟨rfl⟩ herrors
      have hclock : (collector.withFailFast true).tolerated disk clock' folders unreadable =
          { results.setDuration clock'.elapsed with generatedAt := clock'.now } :=
        tolerated_eq_of_clock clock clock'
      rw [← hclock]
      refine collect_completed htrue hparallel (hwalk true) clock' ?_ plan'
      rw [hclock]
      exact herrors
    · rintro _ first rest ⟨rfl⟩ herrors
      have hstopped := collect_stopped htrue hparallel (hwalk true) (tolerated_accounts clock)
        herrors clock' plan'
      exact ⟨hstopped.exists_fault, _, folders, unreadable, hfailFast true, hwalk true, hstopped⟩

namespace Neighbours

def oneByOne : Settings := { scanRoot "readme" with parallel := false }

def oneByOneCollector : Collector := ⟨oneByOne, ⟨"/", [], false⟩, ⟨"readme", false⟩⟩

/-- The error of the first folder. -/
def firstError : FolderError :=
  ⟨"/button", "cannot find one of `/button/readme.ts,/button/readme.tsx,/button/readme.js`", .error⟩

theorem folders_oneByOneCollector :
    oneByOneCollector.walker.folders Neighbours.disk = .ok (["/button", "/card"], []) := by
  have hnames : ∀ entry ∈ entries, Path.IsName entry.1 := by decide
  have hpaths : ["button", "card"].map (Path.join "/") = ["/button", "/card"] := by decide +kernel
  have hfolders : oneByOneCollector.walker.folders Neighbours.disk = _ :=
    Walker.folders_eq_names_of_linkFree hnames disk_linkFree (find_slash entries)
  rw [hfolders, ← hpaths, ← names_entries]
  rfl

end Neighbours

open Neighbours in
theorem strict_ends_with_first_error_neighbours :
    let strict := runWith { oneByOne with failFast := true } Neighbours.disk ⟨.epoch, 0⟩
      Schedule.inOrder
    oneByOne.parallel = false ∧
      (∃ fault, strict.outcome = .error fault ∧ fault.message = firstError.message) ∧
      ∃ collector folders unreadable,
        ofSettings { oneByOne with failFast := true } = .ok collector ∧
          collector.walker.folders Neighbours.disk = .ok (folders, unreadable) ∧
          collector.Stopped Neighbours.disk folders unreadable firstError strict := by
  intro strict
  let results := oneByOneCollector.tolerated Neighbours.disk ⟨.epoch, 0⟩ ["/button", "/card"] []
  have hresults : (runWith { oneByOne with failFast := false } Neighbours.disk ⟨.epoch, 0⟩
      Schedule.inOrder).outcome = .ok results :=
    collect_outcome_of_tolerant rfl folders_oneByOneCollector ⟨.epoch, 0⟩ Schedule.inOrder
  have herrors : results.errors = firstError :: results.errors.tail := by decide +kernel
  have hparallel : oneByOne.parallel = false := rfl
  obtain ⟨-, -, hstopped⟩ := strict_ends_with_first_error hparallel Neighbours.disk ⟨.epoch, 0⟩
    ⟨.epoch, 0⟩ Schedule.inOrder Schedule.inOrder
  exact ⟨hparallel, hstopped results firstError _ hresults herrors⟩

end Collector

end Showcase
