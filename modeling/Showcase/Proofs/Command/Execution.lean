import Showcase.Command
import Showcase.Proofs.Collection.Strict

namespace Showcase

/-!
# What a command comes to

Arguments are resolved to settings, with these the components are collected, and their results
are put into a format and written.  The first of these steps that fails decides how the command
ends, and only the last one changes the disk.
-/

/-- What an execution leaves behind, apart from what it tells beside its output. -/
def Execution.Leaves (execution : Execution) (machine : Machine) :
    Except Fault (Disk × String) → Prop
  | .ok (disk, output) =>
    execution.outcome = .ok () ∧ execution.disk = disk ∧ execution.output = output
  | .error fault =>
    execution.outcome = .error fault ∧ execution.disk = machine.disk ∧ execution.output = ""

namespace Command

variable {list : Listing} {machine : Machine} {arguments : Arguments} {settings : Settings}

/-- The paths of the arguments exist, and with the other layers they make settings. -/
structure Resolves (machine : Machine) (arguments : Arguments) (settings : Settings) : Prop where
  paths : validatePaths machine.disk arguments = .ok ()
  loaded : (Settings.load machine.disk machine.environment Environment.defaultFamily
    arguments).outcome = .ok settings

theorem resolves_of_toOption
    (hpaths : (validatePaths machine.disk arguments).toOption = some ())
    (hloaded : (Settings.load machine.disk machine.environment Environment.defaultFamily
      arguments).outcome.toOption = some settings) : Resolves machine arguments settings :=
  ⟨eq_ok_of_toOption hpaths, eq_ok_of_toOption hloaded⟩

/-- The failure with which arguments are not resolved. -/
def Unresolved (machine : Machine) (arguments : Arguments) (fault : Fault) : Prop :=
  validatePaths machine.disk arguments = .error fault ∨
    (Settings.load machine.disk machine.environment Environment.defaultFamily
      arguments).outcome = .error fault

theorem Resolves.unique {settings' : Settings} (h : Resolves machine arguments settings)
    (h' : Resolves machine arguments settings') : settings = settings' :=
  Except.ok.inj (h.loaded.symm.trans h'.loaded)

theorem Resolves.not_unresolved {fault : Fault} (h : Resolves machine arguments settings) :
    ¬ Unresolved machine arguments fault := by
  rintro (hpaths | hloaded)
  · exact nomatch h.paths.symm.trans hpaths
  · exact nomatch h.loaded.symm.trans hloaded

theorem resolves_or_unresolved (list : Listing) (machine : Machine) (arguments : Arguments) :
    (∃ settings, Resolves machine arguments settings) ∨
      ∃ fault, Unresolved machine arguments fault ∧
        (executeOver list (.generate arguments) machine).Leaves machine (.error fault) := by
  cases hpaths : validatePaths machine.disk arguments with
  | error fault =>
      refine .inr ⟨fault, .inl hpaths, ?_⟩
      rw [executeOver, collect, hpaths]
      exact ⟨rfl, rfl, rfl⟩
  | ok =>
      cases hloaded : (Settings.load machine.disk machine.environment Environment.defaultFamily
          arguments).outcome with
      | ok settings => exact .inl ⟨settings, hpaths, hloaded⟩
      | error fault =>
          refine .inr ⟨fault, .inr hloaded, ?_⟩
          rw [executeOver, collect, hpaths]
          dsimp only
          rw [hloaded]
          exact ⟨rfl, rfl, rfl⟩

/-! ## Stages -/

/-- The results of a run over what is listed. -/
def collected (list : Listing) (machine : Machine) (settings : Settings) : Except Fault Results :=
  Collector.ofSettings settings >>= fun collector =>
    (collector.collectListed (list collector.walker machine.disk) machine.disk machine.clock
      machine.parallel).outcome

theorem collected_folders (machine : Machine) (settings : Settings) :
    collected Walker.folders machine settings =
      (Collector.runWith settings machine.disk machine.clock machine.parallel).outcome := by
  unfold collected Collector.runWith
  cases Collector.ofSettings settings <;> rfl

/-- The disk and the text for the standard output once the results have been written. -/
def written (list : Listing) (machine : Machine) (settings : Settings) :
    Except Fault (Disk × String) :=
  collected list machine settings >>= fun results =>
    results.format settings.outputFormat (style settings) >>= write machine settings.outputFile

theorem write_eq_ok_iff {left : Disk} {file : Option String} {content output : String} :
    write machine file content = .ok (left, output) ↔
      match file with
      | some path => machine.disk.writeText path content = .ok left ∧ output = ""
      | none => machine.refusal = none ∧ left = machine.disk ∧ output = content := by
  cases file with
  | none =>
      rw [write]
      cases machine.refusal <;> simp [eq_comm]
  | some path =>
      rw [write]
      cases htext : machine.disk.writeText path content with
      | error fault => simp [htext]
      | ok disk => simp [htext, eq_comm]

theorem written_eq_ok_iff {left : Disk × String} :
    written list machine settings = .ok left ↔
      ∃ results content, collected list machine settings = .ok results ∧
        results.format settings.outputFormat (style settings) = .ok content ∧
        write machine settings.outputFile content = .ok left := by
  constructor
  · intro h
    obtain ⟨results, hresults, h⟩ := exists_of_bind_eq_ok h
    obtain ⟨content, hcontent, hwrite⟩ := exists_of_bind_eq_ok h
    exact ⟨results, content, hresults, hcontent, hwrite⟩
  · rintro ⟨results, content, hresults, hcontent, hwrite⟩
    rw [written, hresults]
    exact (congrArg (· >>= write machine settings.outputFile) hcontent).trans hwrite

theorem written_of_format_error {results : Results} {fault : Fault}
    (hresults : collected list machine settings = .ok results)
    (hformat : results.format settings.outputFormat (style settings) = .error fault) :
    written list machine settings = .error fault := by
  rw [written, hresults]
  exact congrArg (· >>= write machine settings.outputFile) hformat

theorem collectWith_leaves (list : Listing) (machine : Machine) (settings : Settings)
    (notices : List Notice) :
    (collectWith list machine settings notices).Leaves machine
      (written list machine settings) := by
  unfold collectWith written collected
  cases Collector.ofSettings settings with
  | error fault => exact ⟨rfl, rfl, rfl⟩
  | ok collector =>
      dsimp only [bind, Except.bind]
      cases (collector.collectListed (list collector.walker machine.disk) machine.disk
          machine.clock machine.parallel).outcome with
      | error fault => exact ⟨rfl, rfl, rfl⟩
      | ok results =>
          dsimp only
          cases results.format settings.outputFormat (style settings) with
          | error fault => exact ⟨rfl, rfl, rfl⟩
          | ok content =>
              dsimp only
              cases write machine settings.outputFile content with
              | error fault => exact ⟨rfl, rfl, rfl⟩
              | ok left => exact ⟨rfl, rfl, rfl⟩

/-! ## Ends -/

theorem Resolves.execute_leaves (h : Resolves machine arguments settings) (list : Listing) :
    (executeOver list (.generate arguments) machine).Leaves machine
      (written list machine settings) := by
  rw [executeOver, collect, h.paths]
  dsimp only
  rw [h.loaded]
  exact collectWith_leaves list machine settings _

/-- A failure on the way leaves the disk as it was, and nothing for the standard output. -/
theorem Resolves.aborted {fault : Fault} (h : Resolves machine arguments settings)
    (hwritten : written list machine settings = .error fault) :
    let execution := executeOver list (.generate arguments) machine
    execution.outcome = .error fault ∧ execution.disk = machine.disk ∧ execution.output = "" := by
  have hleaves := h.execute_leaves list
  rw [hwritten] at hleaves
  exact hleaves

theorem Resolves.completed {disk : Disk} {output : String}
    (h : Resolves machine arguments settings)
    (hwritten : written list machine settings = .ok (disk, output)) :
    let execution := executeOver list (.generate arguments) machine
    execution.outcome = .ok () ∧ execution.disk = disk ∧ execution.output = output := by
  have hleaves := h.execute_leaves list
  rw [hwritten] at hleaves
  exact hleaves

theorem Resolves.outcome_eq_error_iff {fault : Fault} (h : Resolves machine arguments settings) :
    (executeOver list (.generate arguments) machine).outcome = .error fault ↔
      written list machine settings = .error fault := by
  cases hwritten : written list machine settings with
  | error other =>
      rw [(h.aborted hwritten).1]
      constructor <;> exact fun h => congrArg Except.error (Except.error.inj h)
  | ok left =>
      rw [(h.completed hwritten).1]
      constructor <;> exact nofun

end Command

end Showcase
