import Mathlib.Tactic.SplitIfs
import Showcase.Proofs.Settings.Sources

namespace Showcase

/-!
# Layered settings

The settings of a run are decided one by one: by the command line, else by the environment, else
by the configuration file, else by the defaults.  One variable that cannot be read silences the
environment.
-/

namespace Settings

/-- The configuration file that is read, if one is named or found. -/
def configFile? (disk : Disk) (environment : Environment) (arguments : Arguments) :
    Option String :=
  arguments.config <|> SettingsFile.first? disk environment.configPlaces

/-- What the configuration file says about a setting. -/
def filed (disk : Disk) (environment : Environment) (arguments : Arguments) (s : Setting) :
    Option s.Value := do
  let path ← configFile? disk environment arguments
  let text ← (disk.readText path).toOption
  let entries ← Toml.parse? text
  let v ← SettingsFile.lastValue? entries s.key
  s.ofToml? v

section Load

variable {disk : Disk} {environment other : Environment} {family : String}
  {arguments : Arguments} {settings : Settings}

theorem said_of_fileLayer {layer : PartialSettings}
    (h : fileLayer disk environment arguments = .ok layer) (s : Setting) :
    layer.said s = filed disk environment arguments s := by
  unfold fileLayer at h
  cases hfile : arguments.config <|> SettingsFile.first? disk environment.configPlaces with
  | none =>
      rw [hfile] at h
      obtain rfl := Except.ok.inj h
      rw [filed, configFile?, hfile, PartialSettings.said_empty]
      rfl
  | some path =>
      rw [hfile] at h
      obtain ⟨text, entries, htext, hentries, hsaid⟩ := SettingsFile.said_of_load h
      simp [filed, configFile?, hfile, htext, hentries, hsaid, Except.toOption]

theorem environmentLayer_eq (disk : Disk) (environment : Environment) (family : String) :
    (environmentLayer disk environment family).1 =
      if environment.speaks family then (environment.layer family).toOption.getD .empty
      else .empty := by
  unfold environmentLayer SettingsSource.tried SettingsSource.isAvailable SettingsSource.load
  dsimp only
  split_ifs
  · cases environment.layer family <;> rfl
  · rfl

theorem said_environmentLayer (disk : Disk) (environment : Environment) (family : String)
    (s : Setting) :
    (environmentLayer disk environment family).1.said s = environment.heard family s := by
  rw [environmentLayer_eq]
  cases hspeaks : environment.speaks family with
  | false =>
      rw [if_neg Bool.false_ne_true, Environment.heard, Environment.said_of_not_speaks hspeaks,
        PartialSettings.said_empty]
      cases environment.layer family <;> rfl
  | true =>
      rw [if_pos rfl]
      cases hlayer : environment.layer family with
      | ok layer => exact (Environment.heard_of_layer hlayer s).symm
      | error fault =>
          have hmalformed := Environment.malformed_iff.mpr ⟨fault, hlayer⟩
          rw [Environment.heard_of_malformed hmalformed]
          exact PartialSettings.said_empty s

theorem outcome_load (disk : Disk) (environment : Environment) (family : String)
    (arguments : Arguments) :
    (load disk environment family arguments).outcome =
      fileLayer disk environment arguments >>= fun file =>
        ((file.merge (environmentLayer disk environment family).1).merge
          arguments.layer).build disk := by
  unfold load
  cases fileLayer disk environment arguments <;> rfl

theorem eq_complete_of_build {layer : PartialSettings} (h : layer.build disk = .ok settings) :
    settings = layer.complete := by
  unfold PartialSettings.build at h
  split at h
  · exact (Except.ok.inj h).symm
  · cases h

theorem value_of_load (h : (load disk environment family arguments).outcome = .ok settings)
    (s : Setting) :
    settings.value s = (arguments.said s <|> environment.heard family s <|>
      filed disk environment arguments s <|> Settings.default.value s) := by
  rw [outcome_load] at h
  obtain ⟨file, hfile, hbuild⟩ := exists_of_bind_eq_ok h
  obtain rfl := eq_complete_of_build hbuild
  rw [PartialSettings.value_complete, PartialSettings.said_merge, PartialSettings.said_merge,
    Arguments.said_layer, said_environmentLayer, said_of_fileLayer hfile]
  cases arguments.said s with
  | some value => rfl
  | none =>
      cases environment.heard family s with
      | some value => rfl
      | none => rfl

/-- What is said in the environment counts for more than what any file says, although files state
the higher rank. -/
theorem value_of_heard (h : (load disk environment family arguments).outcome = .ok settings)
    {s : Setting} {value : s.Value} (hheard : environment.heard family s = some value)
    (harguments : arguments.said s = none) :
    settings.value s = value ∧ ∀ path : String,
      (SettingsSource.environment family).priority < (SettingsSource.file path).priority := by
  refine ⟨?_, fun path => Nat.lt_of_sub_eq_succ rfl⟩
  rw [value_of_load h, harguments, hheard]
  rfl

/-- With a variable that cannot be read a run has the settings that it has without variables. -/
theorem outcome_load_of_malformed (hmalformed : environment.Malformed family)
    (hsilent : other.speaks family = false)
    (hplaces : other.configPlaces = environment.configPlaces) :
    (load disk environment family arguments).outcome =
      (load disk other family arguments).outcome := by
  have hspoken : (environmentLayer disk environment family).1 = .empty := by
    refine PartialSettings.ext_said fun s => ?_
    rw [said_environmentLayer, Environment.heard_of_malformed hmalformed,
      PartialSettings.said_empty]
  have hother : (environmentLayer disk other family).1 = .empty := by
    rw [environmentLayer_eq, hsilent, if_neg Bool.false_ne_true]
  have hfile : fileLayer disk other arguments = fileLayer disk environment arguments := by
    rw [fileLayer, fileLayer, hplaces]
    rfl
  rw [outcome_load, outcome_load, hfile, hspoken, hother]

end Load

/-- Settings are layered one by one, a broken environment is left out as a whole, and layers can
be put on top of each other in any grouping. -/
theorem layered_one_by_one :
    (∀ disk environment family arguments settings,
      (load disk environment family arguments).outcome = .ok settings → ∀ s : Setting,
        settings.value s = (arguments.said s <|> environment.heard family s <|>
          filed disk environment arguments s <|> Settings.default.value s)) ∧
    (∀ disk environment family arguments other,
      environment.Malformed family → other.speaks family = false →
      other.configPlaces = environment.configPlaces →
        (load disk environment family arguments).outcome =
          (load disk other family arguments).outcome) ∧
    (∀ lower middle upper : PartialSettings,
      (lower.merge middle).merge upper = lower.merge (middle.merge upper)) ∧
    (∀ layer : PartialSettings,
      PartialSettings.empty.merge layer = layer ∧ layer.merge .empty = layer) ∧
    ∀ (layers : List PartialSettings) (s : Setting),
      (layers.foldl PartialSettings.merge PartialSettings.empty).complete.value s =
        (layers.reverse.findSome? (·.said s) <|> Settings.default.value s) := by
  refine ⟨?_, ?_, PartialSettings.merge_assoc, ?_, ?_⟩
  · intro disk environment family arguments settings hload s
    exact value_of_load hload s
  · intro disk environment family arguments other hmalformed hsilent hplaces
    exact outcome_load_of_malformed hmalformed hsilent hplaces
  · intro layer
    exact ⟨layer.empty_merge, layer.merge_empty⟩
  · intro layers s
    rw [PartialSettings.value_complete, PartialSettings.said_foldl_merge,
      PartialSettings.said_empty]
    cases layers.reverse.findSome? (·.said s) <;> rfl

namespace Layered

/-- A configuration file beside the components. -/
def root : Disk :=
  ⟨.directory [
    (".component-readme.toml", .file (.text "parallel = false\nquiet = true\njs_only = false\n"))],
    []⟩

def readable : Environment :=
  [("COMPONENT_README_PARALLEL", " YES "), ("COMPONENT_README_JS_ONLY", "on")]

/-- One more variable, which cannot be read. -/
def broken : Environment := ("COMPONENT_README_FAIL_FAST", "perhaps") :: readable

def words : Arguments := { Arguments.empty with path := some "/", switches := [.noParallel] }

/-- The path and the way of work are from the command line, the kind of descriptions is from the
environment, and how much is told is from the file. -/
def layered : Settings :=
  { Settings.default with scanPath := "/", parallel := false, jsOnly := true, quiet := true }

theorem load_readable :
    (load root readable Environment.defaultFamily words).outcome = .ok layered := by
  have hlayered : (load root readable Environment.defaultFamily words).outcome.toOption =
      some layered := by decide +kernel
  cases hload : (load root readable Environment.defaultFamily words).outcome with
  | ok settings =>
      rw [hload] at hlayered
      rw [Option.some.inj hlayered]
  | error fault =>
      rw [hload] at hlayered
      cases hlayered

theorem broken_malformed : broken.Malformed Environment.defaultFamily := by
  have hflag : (broken.flag Environment.defaultFamily "FAIL_FAST").isOk = false := by
    decide +kernel
  cases hfailFast : broken.flag Environment.defaultFamily "FAIL_FAST" with
  | ok value =>
      rw [hfailFast] at hflag
      cases hflag
  | error fault => exact ⟨.failFast, fault, hfailFast⟩

end Layered

open Layered in
theorem layered_one_by_one_root :
    (load root readable Environment.defaultFamily words).outcome = .ok layered ∧
      (∀ s : Setting, layered.value s = (words.said s <|>
        Environment.heard readable Environment.defaultFamily s <|>
          filed root readable words s <|> Settings.default.value s)) ∧
      Environment.Malformed broken Environment.defaultFamily ∧
      Environment.speaks [] Environment.defaultFamily = false ∧
      Environment.configPlaces [] = Environment.configPlaces broken ∧
      (load root broken Environment.defaultFamily words).outcome =
        (load root [] Environment.defaultFamily words).outcome := by
  obtain ⟨hvalue, hbroken, -⟩ := layered_one_by_one
  have hsilent : Environment.speaks [] Environment.defaultFamily = false := by decide +kernel
  have hplaces : Environment.configPlaces [] = Environment.configPlaces broken := by
    decide +kernel
  exact ⟨load_readable, hvalue _ _ _ _ _ load_readable, broken_malformed, hsilent, hplaces,
    hbroken root broken Environment.defaultFamily words [] broken_malformed hsilent hplaces⟩

end Settings

end Showcase
