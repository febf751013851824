import Mathlib.Logic.Function.Iterate
import Showcase.Proofs.Command.Execution
import Showcase.Proofs.Disk.Parents
import Showcase.Proofs.Disk.Writing

namespace Showcase

/-!
# What a command changes

A run that fails, be it because its results cannot be put into their format, leaves the disk as it
was.  One that succeeds has written its report to the output file, if there is one, and has changed
nothing else.  A configuration file is made only under a free name, so making it again changes
nothing.
-/

/-- The machine when a command is over. -/
def Machine.after (machine : Machine) (command : Command) : Machine :=
  { machine with disk := (command.execute machine).disk }

theorem Machine.after_eq_self {machine : Machine} {command : Command}
    (h : (machine.after command).disk = machine.disk) : machine.after command = machine :=
  congrArg (fun disk => { machine with disk }) h

namespace Command

section Effects

variable {machine : Machine} {settings : Settings}

/-! ## Reports -/

/-- The disk after a run whose results were written out in their format. -/
def LeavesReport (machine : Machine) (settings : Settings) (after : Disk) : Prop :=
  ∃ results content,
    (Collector.runWith settings machine.disk machine.clock machine.parallel).outcome =
        .ok results ∧
      results.format settings.outputFormat (style settings) = .ok content ∧
      match settings.outputFile with
      | some path => machine.disk.Written path content after
      | none => after = machine.disk

theorem leavesReport_of_written {after : Disk} {output : String}
    (h : written Walker.folders machine settings = .ok (after, output)) :
    LeavesReport machine settings after := by
  obtain ⟨results, content, hresults, hformat, hwrite⟩ := written_eq_ok_iff.mp h
  rw [collected_folders] at hresults
  refine ⟨results, content, hresults, hformat, ?_⟩
  rw [write_eq_ok_iff] at hwrite
  cases hfile : settings.outputFile with
  | none =>
      rw [hfile] at hwrite
      exact hwrite.2.1
  | some path =>
      rw [hfile] at hwrite
      exact Disk.written_of_writeText hwrite.1

/-- Whatever ends a run early, it ends it before anything is written. -/
theorem disk_of_generate (machine : Machine) (arguments : Arguments) :
    match (execute (.generate arguments) machine).outcome with
    | .error _ => (machine.after (.generate arguments)).disk = machine.disk
    | .ok () =>
      ∃ settings, Resolves machine arguments settings ∧
        LeavesReport machine settings (machine.after (.generate arguments)).disk := by
  rw [Machine.after, execute]
  rcases resolves_or_unresolved Walker.folders machine arguments with
    ⟨settings, hresolves⟩ | ⟨fault, -, houtcome, hdisk, -⟩
  · cases hwritten : written Walker.folders machine settings with
    | error fault =>
        obtain ⟨houtcome, hdisk, -⟩ := hresolves.aborted hwritten
        rw [houtcome]
        exact hdisk
    | ok left =>
        obtain ⟨after, output⟩ := left
        obtain ⟨houtcome, hdisk, -⟩ := hresolves.completed hwritten
        rw [houtcome]
        refine ⟨settings, hresolves, ?_⟩
        rw [hdisk]
        exact leavesReport_of_written hwritten
  · rw [houtcome]
    exact hdisk

/-- Results that cannot be put into their format end the run, and nothing is written. -/
theorem generate_of_format_error {arguments : Arguments} {results : Results} {fault : Fault}
    (hresolves : Resolves machine arguments settings)
    (hrun : (Collector.runWith settings machine.disk machine.clock machine.parallel).outcome =
      .ok results)
    (hformat : results.format settings.outputFormat (style settings) = .error fault) :
    (execute (.generate arguments) machine).outcome = .error fault ∧
      (machine.after (.generate arguments)).disk = machine.disk := by
  have hresults := (collected_folders machine settings).trans hrun
  obtain ⟨houtcome, hdisk, -⟩ := hresolves.aborted (written_of_format_error hresults hformat)
  exact ⟨houtcome, hdisk⟩

/-! ## Configuration files -/

theorem create_defaultName (disk : Disk) :
    SettingsFile.create disk SettingsFile.defaultName =
      match disk.writeText SettingsFile.defaultName SettingsFile.template with
      | .ok after => .ok after
      | .error fault => .error (.outputWrite SettingsFile.defaultName fault.message) := by
  rw [SettingsFile.create, Path.parent?_of_isName (by decide)]
  rfl

theorem init_of_exists (h : machine.disk.exists? SettingsFile.defaultName = true) :
    (execute .init machine).outcome = .ok () ∧ (machine.after .init).disk = machine.disk := by
  rw [Machine.after, execute, executeOver, createFile, if_pos h]
  exact ⟨rfl, rfl⟩

theorem init_of_free {place : List String}
    (h : machine.disk.goal true SettingsFile.defaultName = .ok (.vacant place false)) :
    (execute .init machine).outcome = .ok () ∧
      (machine.after .init).disk = machine.disk.fill place SettingsFile.template := by
  have hexists : ¬ machine.disk.exists? SettingsFile.defaultName = true := by
    rw [Disk.exists?_iff, h]
    simp
  have hwrite : machine.disk.writeText SettingsFile.defaultName SettingsFile.template =
      .ok (machine.disk.fill place SettingsFile.template) :=
    Disk.writeText_eq_ok_iff.mpr ⟨place, .free h, rfl⟩
  rw [Machine.after, execute, executeOver, createFile, if_neg hexists, create_defaultName, hwrite]
  exact ⟨rfl, rfl⟩

/-- A link to a name below a missing directory, or round and round, is no place for a file. -/
theorem init_of_blocked (hexists : ¬ machine.disk.exists? SettingsFile.defaultName = true)
    (hfree : ∀ place,
      machine.disk.goal true SettingsFile.defaultName ≠ .ok (.vacant place false)) :
    (∃ cause, (execute .init machine).outcome =
        .error (.outputWrite SettingsFile.defaultName cause)) ∧
      (machine.after .init).disk = machine.disk := by
  rw [Machine.after, execute, executeOver, createFile, if_neg hexists, create_defaultName]
  cases hwrite : machine.disk.writeText SettingsFile.defaultName SettingsFile.template with
  | error fault => exact ⟨⟨_, rfl⟩, rfl⟩
  | ok after =>
      obtain ⟨place, hopens, -⟩ := Disk.writeText_eq_ok_iff.mp hwrite
      rcases hopens with ⟨content, -, hgoal⟩ | hgoal
      · exact absurd (Disk.exists?_iff.mpr ⟨place, _, hgoal⟩) hexists
      · exact absurd hgoal (hfree place)

theorem init_cases (machine : Machine) :
    (machine.after .init).disk = machine.disk ∨
      ∃ place, machine.disk.goal true SettingsFile.defaultName = .ok (.vacant place false) ∧
        (machine.after .init).disk = machine.disk.fill place SettingsFile.template := by
  by_cases hexists : machine.disk.exists? SettingsFile.defaultName = true
  · exact .inl (init_of_exists hexists).2
  · by_cases hfree : ∃ place,
        machine.disk.goal true SettingsFile.defaultName = .ok (.vacant place false)
    · obtain ⟨place, hgoal⟩ := hfree
      exact .inr ⟨place, hgoal, (init_of_free hgoal).2⟩
    · exact .inl (init_of_blocked hexists fun place hgoal => hfree ⟨place, hgoal⟩).2

/-- What is there stays as it is. -/
theorem face_after_init {place : List String} {node : Node}
    (h : machine.disk.root.at? place = some node) :
    ((machine.after .init).disk.root.at? place).map Node.face = some node.face := by
  rcases init_cases machine with hafter | ⟨out, hgoal, hafter⟩
  · rw [hafter, h]
    rfl
  · have hopens : machine.disk.Opens SettingsFile.defaultName out := .free hgoal
    have hplace : place ≠ out := by
      rintro rfl
      have hnone := Disk.at?_eq_none_of_vacant hgoal
      rw [h] at hnone
      cases hnone
    rw [hafter, (hopens.sameBut _).faces hplace, h]
    rfl

/-- Once there is a configuration file it is not made again. -/
theorem after_init_after_init (machine : Machine) :
    (machine.after .init).after .init = machine.after .init := by
  rcases init_cases machine with hafter | ⟨out, hgoal, hafter⟩
  · rw [Machine.after_eq_self hafter, Machine.after_eq_self hafter]
  · apply Machine.after_eq_self
    have hopens : machine.disk.Opens SettingsFile.defaultName out := .free hgoal
    have hfind := hopens.find_fill SettingsFile.template
    rw [← hafter, Disk.find_eq_ok_iff] at hfind
    exact (init_of_exists (Disk.exists?_iff.mpr ⟨out, _, hfind⟩)).2

theorem iterate_after_init (machine : Machine) (n : Nat) :
    (fun machine : Machine => machine.after .init)^[n + 1] machine = machine.after .init := by
  rw [Function.iterate_succ_apply]
  exact Function.iterate_fixed (after_init_after_init machine) n

theorem goal_defaultName {entries : List (String × Node)}
    (hcurrent : machine.disk.root.at? machine.disk.current = some (.directory entries))
    (hfree : entries.lookup SettingsFile.defaultName = none) :
    machine.disk.goal true SettingsFile.defaultName =
      .ok (.vacant (machine.disk.current ++ [SettingsFile.defaultName]) false) := by
  rw [Disk.goal_name hcurrent (by decide) (by decide), hfree]
  rfl

/-- A run that fails at any stage changes nothing, nor does one that has collected results which
cannot be put into their format, and one that succeeds writes its report to the output file and
changes nothing else.  A configuration file is made where its name is free, there alone and with
the template as its text; nothing that is there is changed, and making it any number of times is
making it once. -/
theorem changes_only_output (machine : Machine) :
    (∀ arguments, match (execute (.generate arguments) machine).outcome with
      | .error _ => (machine.after (.generate arguments)).disk = machine.disk
      | .ok () => ∃ settings, Resolves machine arguments settings ∧
          LeavesReport machine settings (machine.after (.generate arguments)).disk) ∧
    (∀ arguments settings results fault, Resolves machine arguments settings →
      (Collector.runWith settings machine.disk machine.clock machine.parallel).outcome =
        .ok results →
      results.format settings.outputFormat (style settings) = .error fault →
        (execute (.generate arguments) machine).outcome = .error fault ∧
          (machine.after (.generate arguments)).disk = machine.disk) ∧
    (machine.disk.exists? SettingsFile.defaultName = true →
      (execute .init machine).outcome = .ok () ∧ (machine.after .init).disk = machine.disk) ∧
    (∀ place, machine.disk.goal true SettingsFile.defaultName = .ok (.vacant place false) →
      (execute .init machine).outcome = .ok () ∧
        (machine.after .init).disk.find SettingsFile.defaultName =
          .ok (place, .file (.text SettingsFile.template)) ∧
        machine.disk.SameBut (machine.after .init).disk place) ∧
    (∀ entries, machine.disk.root.at? machine.disk.current = some (.directory entries) →
      entries.lookup SettingsFile.defaultName = none →
        machine.disk.goal true SettingsFile.defaultName =
          .ok (.vacant (machine.disk.current ++ [SettingsFile.defaultName]) false)) ∧
    (machine.disk.exists? SettingsFile.defaultName = false →
      (∀ place, machine.disk.goal true SettingsFile.defaultName ≠ .ok (.vacant place false)) →
        (∃ cause, (execute .init machine).outcome =
            .error (.outputWrite SettingsFile.defaultName cause)) ∧
          (machine.after .init).disk = machine.disk) ∧
    (∀ place node, machine.disk.root.at? place = some node →
      ((machine.after .init).disk.root.at? place).map Node.face = some node.face) ∧
    ∀ n, (fun machine : Machine => machine.after .init)^[n + 1] machine = machine.after .init := by
  refine ⟨disk_of_generate machine, ?_, init_of_exists, ?_, ?_, ?_, ?_,
    iterate_after_init machine⟩
  · intro arguments settings results fault hresolves hrun hformat
    exact generate_of_format_error hresolves hrun hformat
  · intro place hgoal
    have hopens : machine.disk.Opens SettingsFile.defaultName place := .free hgoal
    obtain ⟨houtcome, hafter⟩ := init_of_free hgoal
    rw [hafter]
    exact ⟨houtcome, hopens.find_fill _, hopens.sameBut _⟩
  · intro entries hcurrent hfree
    exact goal_defaultName hcurrent hfree
  · intro hexists hfree
    exact init_of_blocked (by simp [hexists]) hfree
  · intro place node hnode
    exact face_after_init hnode

end Effects

namespace Listed

/-- An old report, and no components. -/
def machine : Machine where
  disk := ⟨.directory [("list.txt", .file (.text "An old report"))], []⟩
  environment := []
  clock := ⟨.epoch, 0⟩
  parallel := Schedule.inOrder

/-- The same with a link to a name in a directory that is missing. -/
def dangling : Machine :=
  { machine with
    disk := ⟨.directory [(SettingsFile.defaultName, .link "gone/settings.toml")], []⟩ }

def arguments : Arguments := { Arguments.empty with outputFile := some "list.txt" }

/-- An old report, and a folder whose name is no text. -/
def unnamed : Machine :=
  { machine with
    disk := ⟨.directory [("list.txt", .file (.text "An old report")),
      ("components", .directory [(Path.ofBytes [0x62, 0xFF], .directory [])])], []⟩ }

def inJson : Arguments :=
  { arguments with path := some "components", output := some .json }

def settingsInJson : Settings :=
  { Settings.default with
    scanPath := "components", outputFile := some "list.txt", outputFormat := .json }

theorem resolves_unnamed : Resolves unnamed inJson settingsInJson := by
  refine resolves_of_toOption ?_ ?_ <;> decide +kernel

/-- The folder has no description, and the place of this failure is no text. -/
theorem exists_results_unnamed : ∃ results fault,
    (Collector.runWith settingsInJson unnamed.disk unnamed.clock unnamed.parallel).outcome =
        .ok results ∧
      results.format settingsInJson.outputFormat (style settingsInJson) = .error fault := by
  have hrun : (Collector.runWith settingsInJson unnamed.disk unnamed.clock
      unnamed.parallel).outcome.toOption.any (fun results =>
        !(results.format settingsInJson.outputFormat (style settingsInJson)).isOk) = true := by
    decide +kernel
  cases hresults : (Collector.runWith settingsInJson unnamed.disk unnamed.clock
      unnamed.parallel).outcome with
  | error fault =>
      rw [hresults] at hrun
      cases hrun
  | ok results =>
      rw [hresults] at hrun
      have hformat : (results.format settingsInJson.outputFormat (style settingsInJson)).isOk =
          false := by simpa [Except.toOption] using hrun
      obtain ⟨fault, hfault⟩ := exists_eq_error_of_isOk hformat
      exact ⟨results, fault, rfl, hfault⟩

theorem outcomes : (execute (.generate arguments) machine).outcome = .ok () ∧
    ∃ fault, (execute (.generate { arguments with path := some "gone" })
      machine).outcome = .error fault := by
  have hok : (execute (.generate arguments) machine).outcome.isOk = true := by decide +kernel
  have hgone : (execute (.generate { arguments with path := some "gone" })
      machine).outcome.isOk = false := by decide +kernel
  obtain ⟨⟨⟩, hcompleted⟩ := exists_eq_ok_of_isOk hok
  exact ⟨hcompleted, exists_eq_error_of_isOk hgone⟩

theorem dangling_blocked : dangling.disk.exists? SettingsFile.defaultName = false ∧
    ∀ place, dangling.disk.goal true SettingsFile.defaultName ≠ .ok (.vacant place false) := by
  have hexists : dangling.disk.exists? SettingsFile.defaultName = false := by decide +kernel
  refine ⟨hexists, ?_⟩
  intro place hgoal
  have hwrite : dangling.disk.writeText SettingsFile.defaultName "" = .ok _ :=
    Disk.writeText_eq_ok_iff.mpr ⟨place, .free hgoal, rfl⟩
  have hok : (dangling.disk.writeText SettingsFile.defaultName "").isOk = false := by
    decide +kernel
  rw [hwrite] at hok
  cases hok

end Listed

open Listed in
theorem changes_only_output_listed :
    (∃ settings, Resolves machine arguments settings ∧
      LeavesReport machine settings (machine.after (.generate arguments)).disk) ∧
    (machine.after (.generate { arguments with path := some "gone" })).disk = machine.disk ∧
    (∃ fault, (execute (.generate inJson) unnamed).outcome = .error fault) ∧
    (unnamed.after (.generate inJson)).disk = unnamed.disk ∧
    machine.disk.goal true SettingsFile.defaultName =
      .ok (.vacant [SettingsFile.defaultName] false) ∧
    (machine.after .init).disk.find SettingsFile.defaultName =
      .ok ([SettingsFile.defaultName], .file (.text SettingsFile.template)) ∧
    ((machine.after .init).disk.root.at? ["list.txt"]).map Node.face =
      some (.file (.text "An old report")) ∧
    ((machine.after .init).after .init).disk = (machine.after .init).disk ∧
    (dangling.after .init).disk = dangling.disk := by
  obtain ⟨hgenerate, -, -, hmade, hfree, -, hface, -⟩ := changes_only_output machine
  obtain ⟨-, -, hkept, -⟩ := changes_only_output (machine.after .init)
  obtain ⟨-, -, -, -, -, hblocked, -⟩ := changes_only_output dangling
  obtain ⟨-, hunformatted, -⟩ := changes_only_output unnamed
  obtain ⟨results, unwritable, hrun, hformat⟩ := exists_results_unnamed
  obtain ⟨hunnamed, hunchanged⟩ :=
    hunformatted inJson settingsInJson results unwritable resolves_unnamed hrun hformat
  obtain ⟨hcompleted, fault, hfailed⟩ := outcomes
  have hreport := hgenerate arguments
  rw [hcompleted] at hreport
  have hgone := hgenerate { arguments with path := some "gone" }
  rw [hfailed] at hgone
  have hgoal := hfree [("list.txt", .file (.text "An old report"))] rfl (by decide)
  obtain ⟨-, hfind, -⟩ := hmade _ hgoal
  have hexists : (machine.after .init).disk.exists? SettingsFile.defaultName = true :=
    Disk.exists?_iff.mpr ⟨_, _, Disk.find_eq_ok_iff.mp hfind⟩
  obtain ⟨hdangling, hblock⟩ := dangling_blocked
  exact ⟨hreport, hgone, ⟨unwritable, hunnamed⟩, hunchanged, hgoal, hfind,
    hface ["list.txt"] _ rfl, (hkept hexists).2, (hblocked hdangling hblock).2⟩

end Command

end Showcase

