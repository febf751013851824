import Mathlib.Tactic.SplitIfs
import Showcase.Proofs.Command.Execution
import Showcase.Proofs.Report.Records
import Showcase.Proofs.Report.Restored

namespace Showcase

/-!
# Exit codes

A run ends with zero when its work was done, and also when the failure that ends it is a mere
warning.  Of all that can go wrong on the way only a directory that may not be looked into is a
warning, and only a strict run ends with it.
-/

theorem Fault.severity_eq_warning_iff {fault : Fault} :
    fault.severity = .warning ↔ ∃ path, fault = .permissionDenied path := by
  constructor
  · intro h
    cases fault with
    | permissionDenied path => exact ⟨path, rfl⟩
    | _ => cases h
  · rintro ⟨path, rfl⟩
    rfl

theorem Severity.exitCode_zero_iff_warning {severity : Severity} :
    severity.exitCode = 0 ↔ severity = .warning := by
  cases severity <;> decide

/-- An outcome that is no warning. -/
def Grave (outcome : Except Fault α) : Prop :=
  ∀ fault, outcome = .error fault → fault.severity ≠ .warning

namespace Grave

theorem ok (a : α) : Grave (.ok a : Except Fault α) := fun _ h => nomatch h

theorem error {fault : Fault} (h : fault.severity ≠ .warning) :
    Grave (.error fault : Except Fault α) := by
  intro other hother
  rw [← Except.error.inj hother]
  exact h

theorem bind {x : Except Fault α} {f : α → Except Fault β} (hx : Grave x)
    (hf : ∀ a, Grave (f a)) : Grave (x >>= f) := by
  cases x with
  | ok a => exact hf a
  | error fault => exact error (hx fault rfl)

theorem of_isCritical {fault : Fault} (h : fault.isCritical = true) :
    Grave (.error fault : Except Fault α) := by
  have hcritical : fault.severity = .critical := by simpa [Fault.isCritical] using h
  refine error ?_
  rw [hcritical]
  decide

theorem ne_denied {outcome : Except Fault α} (h : Grave outcome) (path : String) :
    outcome ≠ .error (.permissionDenied path) := by
  intro hdenied
  exact absurd rfl (h _ hdenied)

/-- A check that is made before the rest. -/
theorem guarded {p : Prop} [Decidable p] {fault : Fault} {x : Except Fault α}
    (hfault : fault.severity ≠ .warning) (hx : Grave x) :
    Grave (if p then .error fault else x) := by
  split_ifs
  · exact error hfault
  · exact hx

end Grave

theorem Ordinary.grave {outcome : Except Fault α} (h : Ordinary outcome) : Grave outcome := by
  intro fault hfault
  rw [h fault hfault]
  decide

/-! ## Settings -/

theorem Command.validatePaths_grave (disk : Disk) (arguments : Arguments) :
    Grave (validatePaths disk arguments) := by
  unfold validatePaths
  cases arguments.config with
  | none =>
      cases arguments.path with
      | none => exact .ok ()
      | some path => exact .guarded nofun (.ok ())
  | some config =>
      have hconfig : Grave (if !disk.exists? config then throw (Fault.configNotFound config)
          else pure ()) := .guarded nofun (.ok ())
      cases arguments.path with
      | none => exact hconfig
      | some path => exact .guarded nofun hconfig

namespace PartialSettings

theorem validatePatterns_grave (path : String) (patterns : List String) :
    Grave (validatePatterns path patterns) := by
  induction patterns with
  | nil => exact .ok ()
  | cons pattern rest ih =>
      unfold validatePatterns
      refine .guarded nofun ?_
      split
      · exact ih
      · exact .error nofun

theorem validate_grave (path : String) (layer : PartialSettings) : Grave (layer.validate path) := by
  have hfile : Grave (if layer.outputFile = some "" then
        throw (.config s!"Invalid empty output_file in config file: {Path.shown path}")
      else pure ()) :=
    .guarded nofun (.ok ())
  unfold PartialSettings.validate
  exact .guarded nofun (.bind (validatePatterns_grave path _) fun _ => .guarded nofun hfile)

end PartialSettings

theorem SettingsFile.load_grave (disk : Disk) (path : String) : Grave (load disk path) := by
  unfold load
  refine .guarded nofun ?_
  split
  · unfold parse
    split
    · exact .error nofun
    · rename_i layer hlayer
      split
      · exact .ok layer
      · rename_i fault hfault
        exact .error (layer.validate_grave path fault hfault)
  · exact .error nofun

theorem SettingsFile.write_grave (disk : Disk) (path : String) :
    Grave (match disk.writeText path template with
      | .ok disk => .ok disk
      | .error fault => .error (.outputWrite path fault.message) : Except Fault Disk) := by
  split
  · exact .ok _
  · exact .error nofun

theorem SettingsFile.create_grave (disk : Disk) (path : String) : Grave (create disk path) := by
  unfold create
  split
  · exact write_grave disk path
  · split_ifs
    · exact write_grave disk path
    · split
      · exact write_grave _ path
      · exact .error nofun

namespace Settings

theorem validatePatterns_grave (patterns : List String) : Grave (validatePatterns patterns) := by
  induction patterns with
  | nil => exact .ok ()
  | cons pattern rest ih =>
      unfold validatePatterns
      split
      · exact ih
      · exact .error nofun

theorem validateConfigName_grave (name : String) : Grave (validateConfigName name) := by
  unfold validateConfigName
  refine .guarded nofun (.guarded nofun ?_)
  split
  · exact .ok ()
  · exact .guarded nofun (.ok ())

theorem validateOutputPath_grave (disk : Disk) (path : String) :
    Grave (validateOutputPath disk path) := by
  unfold validateOutputPath
  split
  · exact .ok ()
  · split_ifs
    · exact .ok ()
    · exact .error nofun

theorem validate_grave (disk : Disk) (settings : Settings) : Grave (settings.validate disk) := by
  unfold Settings.validate
  refine .guarded nofun (.bind (validatePatterns_grave _) fun _ =>
    .bind (validateConfigName_grave _) fun _ => ?_)
  split
  · exact validateOutputPath_grave disk _
  · exact .ok ()

/-- No layer of settings makes a warning: a broken environment is left out, and a broken file or
broken settings are critical. -/
theorem load_grave (disk : Disk) (environment : Environment) (family : String)
    (arguments : Arguments) : Grave (load disk environment family arguments).outcome := by
  have hfile : Grave (fileLayer disk environment arguments) := by
    unfold fileLayer
    split
    · exact SettingsFile.load_grave disk _
    · exact .ok PartialSettings.empty
  have hbuild (layer : PartialSettings) : Grave (layer.build disk) := by
    unfold PartialSettings.build
    split
    · exact .ok _
    · rename_i fault hfault
      exact .error (validate_grave disk _ fault hfault)
  unfold load
  split
  · rename_i fault hfault
    exact .error (hfile fault hfault)
  · exact hbuild _

end Settings

/-! ## Folders -/

theorem Walker.patterns_grave (texts : List String) : Grave (patterns texts) := by
  induction texts with
  | nil => exact .ok []
  | cons text rest ih =>
      unfold patterns
      split
      · exact .error nofun
      · split
        · rename_i fault hfault
          exact .error (ih fault hfault)
        · exact .ok _

theorem Schedule.runOrFail_ordinary {work : α → Except Fault β} (h : ∀ item, Ordinary (work item))
    (schedule : Schedule) (label : α → String) (items : List α) :
    Ordinary (schedule.runOrFail label work items).1 := by
  have hfirst (finished : List α) (fault : Fault)
      (hfault : firstFault (finished.map work) = some fault) : fault.severity = .error := by
    induction finished with
    | nil => cases hfault
    | cons item rest ih =>
        rw [List.map_cons] at hfault
        cases hwork : work item with
        | ok b =>
            rw [hwork] at hfault
            exact ih hfault
        | error other =>
            rw [hwork] at hfault
            rw [← Option.some.inj hfault]
            exact h item other hwork
  unfold runOrFail
  dsimp only
  split
  · rename_i fault hfault
    exact .error (hfirst _ fault hfault)
  · exact .ok _

namespace Collector

variable {collector : Collector} {disk : Disk} {clock : Clock} {plan : Plan}
  {folders : List String} {unreadable : List Unreadable} {path : String}

theorem ofSettings_grave (settings : Settings) : Grave (ofSettings settings) := by
  have hwalker : Grave (Walker.ofSettings settings) := by
    unfold Walker.ofSettings
    split
    · exact .ok _
    · rename_i fault hfault
      exact .error (Walker.patterns_grave _ fault hfault)
  unfold ofSettings
  split
  · exact .ok _
  · rename_i fault hfault
    exact .error (hwalker fault hfault)

/-- A run over what was found in the tree. -/
def onTree (collector : Collector) (disk : Disk) (clock : Clock) (plan : Plan)
    (folders : List String) (unreadable : List Unreadable) : Run :=
  if collector.settings.failFast then collector.strict disk clock plan folders unreadable
  else collector.tolerant disk clock plan folders unreadable

/-- Of what the walk could not look at, the first is a directory that may not be looked into. -/
def FirstDenied (unreadable : List Unreadable) (path : String) : Prop :=
  ∃ u rest, unreadable = u :: rest ∧ u.fault = .permissionDenied path

theorem isCritical_of_record {results : Results}
    {outcomes : List (String × Except Fault FolderOptions)} {fault : Fault}
    (h : (record results outcomes).critical = some fault) : fault.isCritical = true := by
  induction outcomes generalizing results with
  | nil => cases h
  | cons outcome rest ih =>
      obtain ⟨folder, other | component⟩ := outcome
      · by_cases hother : other.isCritical = true
        · rw [record, Fault.handle, if_pos hother] at h
          rw [← Option.some.inj h]
          exact hother
        · rw [record, Fault.handle, if_neg hother] at h
          exact ih h
      · exact ih h

/-- A tolerant run ends with critical failures only, whatever the walk could not look at. -/
theorem tolerant_grave (collector : Collector) (disk : Disk) (clock : Clock) (plan : Plan)
    (folders : List String) (unreadable : List Unreadable) :
    Grave (collector.tolerant disk clock plan folders unreadable).outcome := by
  have hfolders (results : Results) (notices : List Notice) :
      Grave (collector.tolerantFolders disk clock plan folders results notices).outcome := by
    unfold tolerantFolders
    dsimp only
    split
    · rename_i fault hfault
      exact Grave.of_isCritical (isCritical_of_record hfault)
    · exact .ok _
  unfold tolerant
  dsimp only
  split
  · rename_i fault hfault
    exact Grave.of_isCritical (isCritical_of_record hfault)
  · split
    · exact hfolders _ _
    · rename_i fault hfault
      split_ifs with hcritical
      · exact Grave.of_isCritical hcritical
      · exact hfolders _ _

/-- What the walk could look at is loaded or fails without a warning. -/
theorem strict_nil_grave (collector : Collector) (disk : Disk) (clock : Clock) (plan : Plan)
    (folders : List String) : Grave (collector.strict disk clock plan folders []).outcome := by
  have hglobal := (collector.loader.loadGlobal_ordinary disk collector.walker.root).grave
  have hload : Ordinary (collector.loadAllOrFail disk plan folders).1 :=
    Schedule.runOrFail_ordinary (collector.loader.load_ordinary disk) _ _ _
  unfold strict
  dsimp only
  split
  · rename_i fault hfault
    exact .error (hglobal fault hfault)
  · dsimp only
    split
    · rename_i fault hfault
      exact .error (hload.grave fault hfault)
    · exact .ok _

theorem onTree_eq_denied_iff :
    (collector.onTree disk clock plan folders unreadable).outcome =
        .error (.permissionDenied path) ↔
      collector.settings.failFast = true ∧ FirstDenied unreadable path := by
  by_cases hstrict : collector.settings.failFast = true
  · rw [onTree, if_pos hstrict]
    -- A strict run looks at what could not be listed before it loads anything.
    cases unreadable with
    | nil =>
        constructor
        · intro h
          exact absurd h ((collector.strict_nil_grave disk clock plan folders).ne_denied path)
        · rintro ⟨-, u, rest, h, -⟩
          cases h
    | cons u rest =>
        have houtcome : (collector.strict disk clock plan folders (u :: rest)).outcome =
            .error u.fault := rfl
        rw [houtcome]
        constructor
        · intro h
          exact ⟨hstrict, u, rest, rfl, Except.error.inj h⟩
        · rintro ⟨-, other, others, h, hdenied⟩
          obtain ⟨rfl, -⟩ := List.cons.inj h
          rw [hdenied]
  · rw [onTree, if_neg hstrict]
    constructor
    · intro h
      have htolerant := collector.tolerant_grave disk clock plan folders unreadable
      exact absurd h (htolerant.ne_denied path)
    · rintro ⟨h, -⟩
      exact absurd h hstrict

theorem collectListed_eq_denied_iff
    {listed : Except Fault (List String × List Unreadable)} {plan : Plan} :
    (collector.collectListed listed disk clock plan).outcome = .error (.permissionDenied path) ↔
      listed = .error (.permissionDenied path) ∨
        collector.settings.failFast = true ∧ ∃ folders unreadable,
          listed = .ok (folders, unreadable) ∧ FirstDenied unreadable path := by
  cases listed with
  | error fault =>
      constructor
      · intro h
        exact .inl (congrArg Except.error (Except.error.inj h))
      · rintro (h | ⟨-, folders, unreadable, h, -⟩)
        · exact congrArg Except.error (Except.error.inj h)
        · cases h
  | ok listed =>
      obtain ⟨folders, unreadable⟩ := listed
      refine onTree_eq_denied_iff.trans ⟨?_, ?_⟩
      · rintro ⟨hstrict, hfirst⟩
        exact .inr ⟨hstrict, folders, unreadable, rfl, hfirst⟩
      · rintro (h | ⟨hstrict, folders', unreadable', h, hfirst⟩)
        · cases h
        · obtain ⟨-, rfl⟩ := Prod.mk.inj (Except.ok.inj h)
          exact ⟨hstrict, hfirst⟩

end Collector

/-- A strict run meets a directory that may not be looked into before anything else that could not
be looked at. -/
def Settings.MeetsClosed (settings : Settings) (disk : Disk) (path : String) : Prop :=
  settings.failFast = true ∧ ∃ collector folders unreadable,
    Collector.ofSettings settings = .ok collector ∧
      collector.walker.folders disk = .ok (folders, unreadable) ∧
      Collector.FirstDenied unreadable path

/-- The same for any way to list directories, which may also be denied as a whole. -/
def Settings.MeetsDenied (settings : Settings) (list : Listing) (disk : Disk) (path : String) :
    Prop :=
  ∃ collector, Collector.ofSettings settings = .ok collector ∧
    (list collector.walker disk = .error (.permissionDenied path) ∨
      settings.failFast = true ∧ ∃ folders unreadable,
        list collector.walker disk = .ok (folders, unreadable) ∧
          Collector.FirstDenied unreadable path)

theorem Walker.folders_ne_denied (walker : Walker) (disk : Disk) (path : String) :
    walker.folders disk ≠ .error (.permissionDenied path) := by
  intro h
  unfold folders at h
  split at h <;> cases h

theorem Settings.meetsDenied_folders {settings : Settings} {disk : Disk} {path : String} :
    settings.MeetsDenied Walker.folders disk path ↔ settings.MeetsClosed disk path := by
  constructor
  · rintro ⟨collector, hcollector, hdenied | ⟨hstrict, folders, unreadable, hfolders, hfirst⟩⟩
    · exact absurd hdenied (collector.walker.folders_ne_denied disk path)
    · exact ⟨hstrict, collector, folders, unreadable, hcollector, hfolders, hfirst⟩
  · rintro ⟨hstrict, collector, folders, unreadable, hcollector, hfolders, hfirst⟩
    exact ⟨collector, hcollector, .inr ⟨hstrict, folders, unreadable, hfolders, hfirst⟩⟩

/-! ## Commands -/

namespace Command

section Ends

variable {list : Listing} {machine : Machine} {arguments : Arguments} {settings : Settings}
  {path : String}

theorem format_grave (results : Results) (format : OutputFormat) (style : TextStyle) :
    Grave (results.format format style) := by
  cases format with
  | text => exact .ok _
  | markdown => exact .ok _
  | csv =>
      obtain ⟨text, htext⟩ := Report.exists_csv results
      rw [Results.format, htext]
      exact .ok text
  | json =>
      obtain ⟨hwritten, hrefused⟩ := results.writtenIf_json
      rw [Results.format]
      by_cases hpaths : results.HasTextPaths
      · obtain ⟨text, htext⟩ := hwritten hpaths
        rw [htext]
        exact .ok text
      · rw [hrefused hpaths]
        exact .error nofun

theorem write_grave (machine : Machine) (file : Option String) (content : String) :
    Grave (write machine file content) := by
  unfold write
  split
  · split
    · exact .ok _
    · exact .error nofun
  · split
    · exact .ok _
    · exact .error nofun

theorem Unresolved.severity_ne {fault : Fault} (h : Unresolved machine arguments fault) :
    fault.severity ≠ .warning := by
  rcases h with hpaths | hloaded
  · exact validatePaths_grave machine.disk arguments fault hpaths
  · exact Settings.load_grave machine.disk machine.environment _ arguments fault hloaded

theorem collected_eq_denied_iff :
    collected list machine settings = .error (.permissionDenied path) ↔
      settings.MeetsDenied list machine.disk path := by
  unfold collected Settings.MeetsDenied
  cases hcollector : Collector.ofSettings settings with
  | error fault =>
      have hfault : fault ≠ .permissionDenied path := by
        rintro rfl
        exact absurd hcollector ((Collector.ofSettings_grave settings).ne_denied path)
      constructor
      · intro h
        exact absurd (Except.error.inj h) hfault
      · rintro ⟨collector, h, -⟩
        cases h
  | ok collector =>
      obtain ⟨rfl, -⟩ := Collector.fields_of_ofSettings hcollector
      refine Collector.collectListed_eq_denied_iff.trans ⟨fun h => ⟨collector, rfl, h⟩, ?_⟩
      rintro ⟨other, hother, h⟩
      obtain rfl := Except.ok.inj hother
      exact h

theorem written_eq_denied_iff :
    written list machine settings = .error (.permissionDenied path) ↔
      settings.MeetsDenied list machine.disk path := by
  rw [← collected_eq_denied_iff, written]
  cases collected list machine settings with
  | error fault =>
      constructor
      · intro h
        rw [Except.error.inj h]
      · intro h
        rw [Except.error.inj h]
        rfl
  | ok results =>
      have hlast : Grave (results.format settings.outputFormat (style settings) >>=
          write machine settings.outputFile) :=
        .bind (format_grave results _ _) fun content => write_grave machine _ content
      constructor
      · intro h
        exact absurd h (hlast.ne_denied path)
      · intro h
        cases h

/-- The results were written in their format, to the output file or else to the standard output. -/
def Wrote (machine : Machine) (settings : Settings) (execution : Execution) : Prop :=
  ∃ results content,
    (Collector.runWith settings machine.disk machine.clock machine.parallel).outcome =
        .ok results ∧
      results.format settings.outputFormat (style settings) = .ok content ∧
      match settings.outputFile with
      | some path => machine.disk.writeText path content = .ok execution.disk
      | none => machine.refusal = none ∧ execution.output = content

theorem Resolves.outcome_eq_ok_iff (h : Resolves machine arguments settings) :
    (execute (.generate arguments) machine).outcome = .ok () ↔
      Wrote machine settings (execute (.generate arguments) machine) := by
  unfold execute
  constructor
  · intro houtcome
    cases hwritten : written Walker.folders machine settings with
    | error fault =>
        rw [(h.aborted hwritten).1] at houtcome
        cases houtcome
    | ok left =>
        obtain ⟨-, hdisk, houtput⟩ := h.completed hwritten
        obtain ⟨results, content, hresults, hformat, hwrite⟩ := written_eq_ok_iff.mp hwritten
        rw [collected_folders] at hresults
        refine ⟨results, content, hresults, hformat, ?_⟩
        have hcases := write_eq_ok_iff.mp hwrite
        cases hfile : settings.outputFile with
        | none =>
            rw [hfile] at hcases
            exact ⟨hcases.1, houtput.trans hcases.2.2⟩
        | some path =>
            rw [hfile] at hcases
            rw [hdisk]
            exact hcases.1
  · rintro ⟨results, content, hrun, hformat, hwrote⟩
    obtain ⟨left, hwrite⟩ : ∃ left, write machine settings.outputFile content = .ok left := by
      cases hfile : settings.outputFile with
      | none =>
          rw [hfile] at hwrote
          exact ⟨_, write_eq_ok_iff.mpr ⟨hwrote.1, rfl, rfl⟩⟩
      | some path =>
          rw [hfile] at hwrote
          exact ⟨_, write_eq_ok_iff.mpr ⟨hwrote, rfl⟩⟩
    have hresults := (collected_folders machine settings).trans hrun
    have hwritten := written_eq_ok_iff.mpr ⟨results, content, hresults, hformat, hwrite⟩
    exact (h.completed hwritten).1

/-- What a command is asked for has been done. -/
def Done (machine : Machine) : Command → Prop
  | .generate arguments =>
    ∃ settings, Resolves machine arguments settings ∧
      Wrote machine settings (execute (.generate arguments) machine)
  | .init =>
    machine.disk.exists? SettingsFile.defaultName ∨
      SettingsFile.create machine.disk SettingsFile.defaultName =
        .ok (execute .init machine).disk

/-- A command meets a directory that may not be looked into, and this ends it. -/
def MeetsClosed (machine : Machine) (path : String) : Command → Prop
  | .generate arguments =>
    ∃ settings, Resolves machine arguments settings ∧ settings.MeetsClosed machine.disk path
  | .init => False

/-- The same for any way to list directories. -/
def MeetsDenied (list : Listing) (machine : Machine) (path : String) : Command → Prop
  | .generate arguments =>
    ∃ settings, Resolves machine arguments settings ∧
      settings.MeetsDenied list machine.disk path
  | .init => False

theorem meetsDenied_folders {command : Command} :
    command.MeetsDenied Walker.folders machine path ↔ command.MeetsClosed machine path := by
  cases command with
  | generate arguments =>
      exact exists_congr fun settings => and_congr_right fun _ => Settings.meetsDenied_folders
  | init => exact Iff.rfl

end Ends

theorem outcome_eq_ok_iff (command : Command) (machine : Machine) :
    (command.execute machine).outcome = .ok () ↔ command.Done machine := by
  cases command with
  | generate arguments =>
      rcases resolves_or_unresolved Walker.folders machine arguments with
        ⟨settings, hresolves⟩ | ⟨fault, hunresolved, houtcome, -, -⟩
      · constructor
        · intro h
          exact ⟨settings, hresolves, hresolves.outcome_eq_ok_iff.mp h⟩
        · rintro ⟨other, hother, hwrote⟩
          exact hother.outcome_eq_ok_iff.mpr hwrote
      · constructor
        · intro h
          rw [execute, houtcome] at h
          cases h
        · rintro ⟨settings, hresolves, -⟩
          exact absurd hunresolved hresolves.not_unresolved
  | init =>
      unfold Done execute executeOver createFile
      dsimp only
      by_cases hexists : machine.disk.exists? SettingsFile.defaultName = true
      · simp [hexists]
      · cases hcreate : SettingsFile.create machine.disk SettingsFile.defaultName with
        | error fault => simp [hexists, aborted]
        | ok disk => simp [hexists]

theorem outcome_eq_denied_iff (list : Listing) (command : Command) (machine : Machine)
    (path : String) :
    (command.executeOver list machine).outcome = .error (.permissionDenied path) ↔
      command.MeetsDenied list machine path := by
  cases command with
  | generate arguments =>
      rcases resolves_or_unresolved list machine arguments with
        ⟨settings, hresolves⟩ | ⟨fault, hunresolved, houtcome, -, -⟩
      · rw [hresolves.outcome_eq_error_iff, written_eq_denied_iff]
        constructor
        · intro h
          exact ⟨settings, hresolves, h⟩
        · rintro ⟨other, hother, hmeets⟩
          obtain rfl := hresolves.unique hother
          exact hmeets
      · constructor
        · intro h
          rw [houtcome] at h
          rw [Except.error.inj h] at hunresolved
          exact absurd rfl hunresolved.severity_ne
        · rintro ⟨settings, hresolves, -⟩
          exact absurd hunresolved hresolves.not_unresolved
  | init =>
      have hcreate := SettingsFile.create_grave machine.disk SettingsFile.defaultName
      constructor
      · intro h
        unfold executeOver createFile at h
        dsimp only at h
        split_ifs at h
        split at h
        · rename_i fault hfault
          rw [Except.error.inj h] at hfault
          exact absurd hfault (hcreate.ne_denied path)
        · cases h
      · exact nofun

theorem exitCode_of_error {list : Listing} {command : Command} {machine : Machine} {fault : Fault}
    (h : (command.executeOver list machine).outcome = .error fault) :
    (command.runOver list machine).exitCode = fault.severity.exitCode := by
  rw [runOver, h]

theorem exitCode_runOver_eq_zero_iff (list : Listing) (command : Command) (machine : Machine) :
    (command.runOver list machine).exitCode = 0 ↔
      (command.executeOver list machine).outcome = .ok () ∨
        ∃ path, command.MeetsDenied list machine path := by
  cases houtcome : (command.executeOver list machine).outcome with
  | ok =>
      have hzero : (command.runOver list machine).exitCode = 0 := by
        rw [runOver, houtcome]
      exact ⟨fun _ => .inl rfl, fun _ => hzero⟩
  | error fault =>
      rw [exitCode_of_error houtcome, Severity.exitCode_zero_iff_warning,
        Fault.severity_eq_warning_iff]
      constructor
      · rintro ⟨path, rfl⟩
        exact .inr ⟨path, (outcome_eq_denied_iff list command machine path).mp houtcome⟩
      · rintro (h | ⟨path, hmeets⟩)
        · cases h
        · have hdenied := (outcome_eq_denied_iff list command machine path).mpr hmeets
          exact ⟨path, Except.error.inj (houtcome.symm.trans hdenied)⟩

/-- A run ends with zero if its work was done, or else if a strict run ended with the warning that
the first of what could not be looked at is a directory that may not be looked into.  Whatever else
a run ends with, the exit code tells of it, and so it does for any way to list directories, unless
the listing itself is denied. -/
theorem exitCode_eq_zero_iff (command : Command) (machine : Machine) :
    ((command.run machine).exitCode = 0 ↔
        (command.execute machine).outcome = .ok () ∨
          ∃ path, command.MeetsClosed machine path) ∧
      ((command.execute machine).outcome = .ok () ↔ command.Done machine) ∧
      (∀ path, (command.execute machine).outcome = .error (.permissionDenied path) ↔
        command.MeetsClosed machine path) ∧
      (∀ (collector : Collector) disk clock plan folders unreadable path,
        (collector.onTree disk clock plan folders unreadable).outcome =
            .error (.permissionDenied path) ↔
          collector.settings.failFast = true ∧ Collector.FirstDenied unreadable path) ∧
      ∀ list : Listing,
        ((command.runOver list machine).exitCode = 0 ↔
          (command.executeOver list machine).outcome = .ok () ∨
            ∃ path, command.MeetsDenied list machine path) ∧
        ∀ path, (command.executeOver list machine).outcome = .error (.permissionDenied path) ↔
          command.MeetsDenied list machine path := by
  refine ⟨?_, outcome_eq_ok_iff command machine, fun path => ?_,
    fun _ _ _ _ _ _ _ => Collector.onTree_eq_denied_iff,
    fun list => ⟨exitCode_runOver_eq_zero_iff list command machine,
      outcome_eq_denied_iff list command machine⟩⟩
  · have hzero := exitCode_runOver_eq_zero_iff Walker.folders command machine
    simp only [meetsDenied_folders] at hzero
    exact hzero
  · exact (outcome_eq_denied_iff Walker.folders command machine path).trans meetsDenied_folders

namespace Closed

def machine : Machine where
  disk := ⟨.directory [("components", .closed)], []⟩
  environment := []
  clock := ⟨.epoch, 0⟩
  parallel := Schedule.inOrder

def arguments : Arguments :=
  { Arguments.empty with path := some "components", switches := [.failFast] }

def settings : Settings := { Settings.default with scanPath := "components", failFast := true }

theorem resolves : Resolves machine arguments settings := by
  refine resolves_of_toOption ?_ ?_ <;> decide +kernel

theorem find_components : machine.disk.find "components" = .ok (["components"], .closed) := by
  have hsegments : Path.segments "components" = ["components"] := by decide +kernel
  have habsolute : Path.isAbsolute "components" = false := by decide +kernel
  have hlength : Path.size "components" = 10 := by decide +kernel
  simp [Disk.find, Disk.goal, Disk.linkLimit, Disk.reach, Disk.along, Node.at?, Node.child?,
    Path.isIdle, Disk.longestName, machine, hsegments, habsolute, hlength]

theorem settings_meetsClosed : settings.MeetsClosed machine.disk "components" := by
  have hok : (settings.validate machine.disk).isOk = true := by decide +kernel
  obtain ⟨⟨⟩, hvalid⟩ := exists_eq_ok_of_isOk hok
  obtain ⟨-, globs, hcollector⟩ := Collector.exists_ofSettings_of_validate hvalid
  have hfolders : Walker.folders ⟨"components", globs, false⟩ machine.disk =
      .ok ([], [⟨"components", .permissionDenied "components"⟩]) := by
    simp [Walker.folders, Walker.listings, find_components, Walker.Listed.folder?,
      Walker.Listed.unreadable?]
  exact ⟨rfl, _, _, _, hcollector, hfolders, _, _, rfl, rfl⟩

end Closed

open Closed in
/-- A strict run over a directory that may not be looked into ends before anything is written, and
its exit code does not tell. -/
theorem exists_aborted_with_zero :
    (execute (.generate arguments) machine).outcome = .error (.permissionDenied "components") ∧
      (execute (.generate arguments) machine).output = "" ∧
      (run (.generate arguments) machine).exitCode = 0 ∧
      ¬ ∀ command machine, (run command machine).exitCode = 0 ↔
        (execute command machine).outcome = .ok () := by
  have hwritten : written Walker.folders machine settings =
      .error (.permissionDenied "components") :=
    written_eq_denied_iff.mpr (Settings.meetsDenied_folders.mpr settings_meetsClosed)
  obtain ⟨houtcome, -, houtput⟩ := resolves.aborted hwritten
  have hzero : (run (.generate arguments) machine).exitCode = 0 := exitCode_of_error houtcome
  refine ⟨houtcome, houtput, hzero, fun h => ?_⟩
  have hok := (h (.generate arguments) machine).mp hzero
  rw [execute, houtcome] at hok
  cases hok

end Command

end Showcase
