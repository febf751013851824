import Showcase.Proofs.Command.Effects
import Showcase.Proofs.Command.OutputPath

namespace Showcase

/-!
# The configuration file that is made

The template says the default of whatever it sets, so below other layers it says nothing new.
Making a file of it changes the settings of no run, except that the file then exists: an output
path through it, which was refused before, is accepted.
-/

namespace PartialSettings

/-- Whether a layer says nothing but defaults. -/
def Neutral (layer : PartialSettings) : Prop :=
  ∀ s, layer.said s = none ∨ layer.said s = Settings.default.value s

theorem Neutral.complete_merge {lower : PartialSettings} (h : lower.Neutral)
    (upper : PartialSettings) : (lower.merge upper).complete = upper.complete := by
  apply Settings.ext_value
  intro s
  rw [value_complete, value_complete, said_merge]
  cases upper.said s with
  | some value => rfl
  | none =>
      rcases h s with hnone | hdefault
      · rw [hnone]
        rfl
      · rw [hdefault]
        cases Settings.default.value s <;> rfl

end PartialSettings

namespace SettingsFile

/-- What the template says. -/
def templateLayer : PartialSettings :=
  { PartialSettings.empty with
    excludePatterns := some Settings.default.excludePatterns
    configName := some Settings.default.configName
    jsOnly := some Settings.default.jsOnly
    outputFormat := some Settings.default.outputFormat
    parallel := some Settings.default.parallel
    failFast := some Settings.default.failFast
    quiet := some Settings.default.quiet
    verbose := some Settings.default.verbose
    useColors := some Settings.default.useColors
    showProgress := some Settings.default.showProgress
    followLinks := some Settings.default.followLinks }

theorem templateLayer_neutral : templateLayer.Neutral := by
  intro s
  cases s with
  | scanPath | outputFile => exact .inl rfl
  | _ => exact .inr rfl

theorem parse_template : parse defaultName template = .ok templateLayer := by
  have hlayer : (Toml.parse? template).bind layer? = some templateLayer := by
    rw [Toml.parse?, template, String.toList_intercalate]
    simp only [List.map_cons, List.map_nil]
    -- Each line is the text of its characters, which need not be decoded then.
    repeat rw [String.toList_ofList]
    decide +kernel
  have hok : (templateLayer.validate defaultName).isOk = true := by decide +kernel
  obtain ⟨⟨⟩, hvalid⟩ := exists_eq_ok_of_isOk hok
  rw [parse, hlayer]
  dsimp only
  rw [hvalid]

end SettingsFile

/-! ## Once there is a file -/

/-- What becomes of an outcome when a file is put at `out`: it is the same, or a directory is no
longer missed because the path to it leads to the file. -/
inductive Disk.Supplied (disk : Disk) (out : List String) {α : Type} :
    Except Fault α → Except Fault α → Prop
  | same {outcome : Except Fault α} (h : ∀ parent, outcome = .error (.outputDirectoryNotFound parent) →
      disk.goal true parent ≠ .ok (.vacant out false)) : Supplied disk out outcome outcome
  | found {parent : String} (a : α) (h : disk.goal true parent = .ok (.vacant out false)) :
      Supplied disk out (.error (.outputDirectoryNotFound parent)) (.ok a)

namespace Disk.Supplied

variable {disk : Disk} {out : List String} {α : Type} {before after : Except Fault α}

theorem eq (h : disk.Supplied out before after)
    (hbefore : ∀ parent, disk.goal true parent = .ok (.vacant out false) →
      before ≠ .error (.outputDirectoryNotFound parent)) : after = before := by
  cases h with
  | same => rfl
  | found a hgoal => exact absurd rfl (hbefore _ hgoal)

theorem exists_ok (h : disk.Supplied out before after) {parent : String}
    (hgoal : disk.goal true parent = .ok (.vacant out false))
    (hbefore : before = .error (.outputDirectoryNotFound parent)) : ∃ a, after = .ok a := by
  cases h with
  | same hsame => exact absurd hgoal (hsame parent hbefore)
  | found a => exact ⟨a, rfl⟩

end Disk.Supplied

namespace Settings

variable {disk : Disk} {out : List String}

theorem validatePatterns_ne_notFound (patterns : List String) (parent : String) :
    validatePatterns patterns ≠ .error (.outputDirectoryNotFound parent) := by
  induction patterns with
  | nil => nofun
  | cons pattern rest ih =>
      unfold validatePatterns
      split
      · exact ih
      · nofun

theorem validateConfigName_ne_notFound (name parent : String) :
    validateConfigName name ≠ .error (.outputDirectoryNotFound parent) := by
  unfold validateConfigName
  split_ifs
  · nofun
  · nofun
  · split
    · nofun
    · split_ifs <;> nofun

theorem validateInput_ne_notFound (disk : Disk) (settings : Settings) (parent : String) :
    validateInput disk settings ≠ .error (.outputDirectoryNotFound parent) := by
  unfold validateInput
  cases disk.isDirectory settings.scanPath with
  | false => nofun
  | true =>
      have hpatterns := validatePatterns_ne_notFound settings.excludePatterns parent
      cases hchecked : validatePatterns settings.excludePatterns with
      | error fault =>
          rw [hchecked] at hpatterns
          exact hpatterns
      | ok => exact validateConfigName_ne_notFound settings.configName parent

theorem validateInput_fill (htakes : disk.root.Takes out) (text : String) (settings : Settings) :
    validateInput (disk.fill out text) settings = validateInput disk settings := by
  rw [validateInput, validateInput, Disk.isDirectory_fill htakes]

theorem validateOutputPath_fill (htakes : disk.root.Takes out) (text path : String) :
    disk.Supplied out (validateOutputPath disk path)
      (validateOutputPath (disk.fill out text) path) := by
  unfold validateOutputPath
  split
  · exact .same nofun
  · rename_i parent _
    have hexists := Disk.exists?_fill_iff htakes text parent
    by_cases hempty : parent = ""
    · rw [if_pos (.inl hempty), if_pos (.inl hempty)]
      exact .same nofun
    · by_cases hbefore : disk.exists? parent = true
      · rw [if_pos (.inr hbefore), if_pos (.inr (hexists.mpr (.inl hbefore)))]
        exact .same nofun
      · rw [if_neg (not_or.mpr ⟨hempty, hbefore⟩)]
        by_cases hgoal : disk.goal true parent = .ok (.vacant out false)
        · rw [if_pos (.inr (hexists.mpr (.inr hgoal)))]
          exact .found () hgoal
        · have hafter : ¬ (disk.fill out text).exists? parent = true := by
            rw [hexists]
            exact not_or.mpr ⟨hbefore, hgoal⟩
          rw [if_neg (not_or.mpr ⟨hempty, hafter⟩)]
          apply Disk.Supplied.same
          intro other hother
          cases hother
          exact hgoal

theorem validate_fill (htakes : disk.root.Takes out) (text : String) (settings : Settings) :
    disk.Supplied out (settings.validate disk) (settings.validate (disk.fill out text)) := by
  rw [validate_eq, validate_eq, validateInput_fill htakes]
  have hinput := validateInput_ne_notFound disk settings
  cases hchecked : validateInput disk settings with
  | error fault =>
      apply Disk.Supplied.same
      intro parent hparent
      exact absurd (hchecked.trans hparent) (hinput parent)
  | ok =>
      change disk.Supplied out (validateOutput disk settings)
        (validateOutput (disk.fill out text) settings)
      unfold validateOutput
      cases settings.outputFile with
      | none => exact .same nofun
      | some path => exact validateOutputPath_fill htakes text path

theorem build_fill (htakes : disk.root.Takes out) (text : String) (layer : PartialSettings) :
    disk.Supplied out (layer.build disk) (layer.build (disk.fill out text)) := by
  have hvalidate := validate_fill htakes text layer.complete
  unfold PartialSettings.build
  generalize layer.complete.validate disk = before at hvalidate
  generalize layer.complete.validate (disk.fill out text) = after at hvalidate
  cases hvalidate with
  | same h =>
      cases before with
      | ok => exact .same nofun
      | error fault =>
          apply Disk.Supplied.same
          intro parent hparent
          cases hparent
          exact h parent rfl
  | found a h => exact .found layer.complete h

/-! ## Loading -/

variable {environment : Environment} {family : String} {arguments : Arguments}

theorem load_of_fileLayer {file : PartialSettings}
    (h : fileLayer disk environment arguments = .ok file) :
    load disk environment family arguments =
      ⟨((file.merge (environmentLayer disk environment family).1).merge arguments.layer).build disk,
        (environmentLayer disk environment family).2⟩ := by
  rw [load, h]

/-- The environment is heard without a look at the disk. -/
theorem environmentLayer_disk (disk other : Disk) :
    environmentLayer disk environment family = environmentLayer other environment family :=
  rfl

theorem fileLayer_of_none (hconfig : arguments.config = none)
    (hnone : SettingsFile.first? disk environment.configPlaces = none) :
    fileLayer disk environment arguments = .ok .empty := by
  rw [fileLayer, hconfig, hnone]
  rfl

theorem first?_of_isFile (h : disk.isFile SettingsFile.defaultName = true) :
    SettingsFile.first? disk environment.configPlaces = some SettingsFile.defaultName := by
  rw [SettingsFile.first?, Environment.configPlaces, List.append_assoc, List.singleton_append,
    List.find?_cons, h]

theorem fileLayer_of_text {place : List String} {text : String} (hconfig : arguments.config = none)
    (h : disk.find SettingsFile.defaultName = .ok (place, .file (.text text))) :
    fileLayer disk environment arguments = SettingsFile.parse SettingsFile.defaultName text := by
  have hfile : disk.isFile SettingsFile.defaultName = true := by
    rw [Disk.isFile, Disk.node?, h]
    rfl
  have htext : disk.readText SettingsFile.defaultName = .ok text := by
    rw [Disk.readText, h]
  rw [fileLayer, hconfig, first?_of_isFile hfile]
  change SettingsFile.load disk SettingsFile.defaultName = _
  rw [SettingsFile.load, hfile, htext]
  rfl

end Settings

namespace Command

/-- Whether settings are refused because the directory of their output file is missing just where
the configuration file will be. -/
def MissesConfig (machine : Machine) (outcome : Except Fault Settings) : Prop :=
  ∃ out parent, machine.disk.goal true SettingsFile.defaultName = .ok (.vacant out false) ∧
    machine.disk.goal true parent = .ok (.vacant out false) ∧
    outcome = .error (.outputDirectoryNotFound parent)

section Init

variable {machine : Machine} (family : String) {arguments : Arguments}
  (hconfig : arguments.config = none)
  (hnone : SettingsFile.first? machine.disk machine.environment.configPlaces = none)

include hconfig hnone

theorem load_after_init {out : List String}
    (hgoal : machine.disk.goal true SettingsFile.defaultName = .ok (.vacant out false)) :
    let before := Settings.load machine.disk machine.environment family arguments
    let after := Settings.load (machine.after .init).disk machine.environment family arguments
    machine.disk.Supplied out before.outcome after.outcome ∧ after.notices = before.notices := by
  have hopens : machine.disk.Opens SettingsFile.defaultName out := .free hgoal
  have hfile : Settings.fileLayer (machine.disk.fill out SettingsFile.template)
      machine.environment arguments = .ok SettingsFile.templateLayer :=
    (Settings.fileLayer_of_text hconfig (hopens.find_fill _)).trans SettingsFile.parse_template
  rw [(init_of_free hgoal).2, Settings.load_of_fileLayer hfile,
    Settings.load_of_fileLayer (Settings.fileLayer_of_none hconfig hnone),
    Settings.environmentLayer_disk _ machine.disk]
  refine ⟨?_, rfl⟩
  have hbuild (disk : Disk) (upper : PartialSettings) :
      (SettingsFile.templateLayer.merge upper).build disk = upper.build disk := by
    unfold PartialSettings.build
    rw [PartialSettings.Neutral.complete_merge SettingsFile.templateLayer_neutral]
  rw [PartialSettings.merge_assoc, PartialSettings.merge_assoc, PartialSettings.empty_merge, hbuild]
  exact Settings.build_fill hopens.takes _ _

/-- An outcome is the same unless it is the failure that a directory is missing where the file is
made, and then the settings are accepted. -/
theorem outcome_after_init :
    let before := Settings.load machine.disk machine.environment family arguments
    let after := Settings.load (machine.after .init).disk machine.environment family arguments
    after.notices = before.notices ∧
      (¬ MissesConfig machine before.outcome → after.outcome = before.outcome) ∧
      (MissesConfig machine before.outcome → ∃ settings, after.outcome = .ok settings) := by
  intro before after
  by_cases hfree : ∃ out,
      machine.disk.goal true SettingsFile.defaultName = .ok (.vacant out false)
  · obtain ⟨out, hgoal⟩ := hfree
    obtain ⟨hsupplied, hnotices⟩ := load_after_init family hconfig hnone hgoal
    refine ⟨hnotices, ?_, ?_⟩
    · intro hkept
      apply hsupplied.eq
      intro parent hparent hbefore
      exact hkept ⟨out, parent, hgoal, hparent, hbefore⟩
    · rintro ⟨place, parent, hplace, hparent, hbefore⟩
      obtain rfl : place = out := by
        cases hplace.symm.trans hgoal
        rfl
      exact hsupplied.exists_ok hparent hbefore
  · have hafter : after = before := by
      rcases init_cases machine with hdisk | ⟨out, hgoal, -⟩
      · exact congrArg (Settings.load · machine.environment family arguments) hdisk
      · exact absurd ⟨out, hgoal⟩ hfree
    refine ⟨congrArg Loaded.notices hafter, fun _ => congrArg Loaded.outcome hafter, ?_⟩
    rintro ⟨out, -, hgoal, -⟩
    exact absurd ⟨out, hgoal⟩ hfree

end Init

/-- The configuration file that is made is found by a run that found none, and changes what the run
is set to do only if an output path through that file was refused. -/
theorem init_keeps_settings (machine : Machine) (family : String) (arguments : Arguments)
    (hconfig : arguments.config = none)
    (hnone : SettingsFile.first? machine.disk machine.environment.configPlaces = none) :
    let before := Settings.load machine.disk machine.environment family arguments
    let after := Settings.load (machine.after .init).disk machine.environment family arguments
    (∀ out, machine.disk.goal true SettingsFile.defaultName = .ok (.vacant out false) →
      SettingsFile.first? (machine.after .init).disk machine.environment.configPlaces =
        some SettingsFile.defaultName) ∧
    after.notices = before.notices ∧
    (after.outcome = before.outcome ↔ ¬ MissesConfig machine before.outcome) ∧
    (MissesConfig machine before.outcome → ∃ settings, after.outcome = .ok settings) := by
  intro before after
  obtain ⟨hnotices, hkept, haccepted⟩ := outcome_after_init family hconfig hnone
  refine ⟨?_, hnotices, ⟨?_, hkept⟩, haccepted⟩
  · intro out hgoal
    have hopens : machine.disk.Opens SettingsFile.defaultName out := .free hgoal
    apply Settings.first?_of_isFile
    rw [(init_of_free hgoal).2, Disk.isFile, Disk.node?, hopens.find_fill]
    rfl
  · intro hsame hmisses
    obtain ⟨settings, hafter⟩ := haccepted hmisses
    obtain ⟨out, parent, -, -, hbefore⟩ := hmisses
    cases hafter.symm.trans (hsame.trans hbefore)

namespace Listed

/-- An output path through the configuration file. -/
def through : Arguments :=
  { Arguments.empty with outputFile := some ".component-readme.toml/report.txt" }

theorem first?_machine :
    SettingsFile.first? machine.disk machine.environment.configPlaces = none := by
  decide +kernel

theorem outcomes_load :
    (Settings.load machine.disk machine.environment Environment.defaultFamily through).outcome =
        .error (.outputDirectoryNotFound SettingsFile.defaultName) ∧
      (Settings.load machine.disk machine.environment Environment.defaultFamily arguments).outcome =
        .ok { Settings.default with outputFile := some "list.txt" } := by
  constructor <;> decide +kernel

theorem goal_machine : machine.disk.goal true SettingsFile.defaultName =
    .ok (.vacant [SettingsFile.defaultName] false) := by
  have hcurrent : machine.disk.root.at? machine.disk.current =
      some (.directory [("list.txt", .file (.text "An old report"))]) := rfl
  exact goal_defaultName hcurrent (by decide)

theorem missesConfig : MissesConfig machine
    (Settings.load machine.disk machine.environment Environment.defaultFamily through).outcome := by
  obtain ⟨hthrough, -⟩ := outcomes_load
  exact ⟨_, _, goal_machine, goal_machine, hthrough⟩

end Listed

open Listed in
theorem init_keeps_settings_listed :
    SettingsFile.first? (machine.after .init).disk machine.environment.configPlaces =
        some SettingsFile.defaultName ∧
      (Settings.load (machine.after .init).disk machine.environment Environment.defaultFamily
        arguments).outcome = .ok { Settings.default with outputFile := some "list.txt" } ∧
      ∃ settings, (Settings.load (machine.after .init).disk machine.environment
        Environment.defaultFamily through).outcome = .ok settings := by
  obtain ⟨hfirst, -, hkept, -⟩ :=
    init_keeps_settings machine Environment.defaultFamily arguments rfl first?_machine
  obtain ⟨-, -, -, haccepted⟩ :=
    init_keeps_settings machine Environment.defaultFamily through rfl first?_machine
  obtain ⟨-, hload⟩ := outcomes_load
  refine ⟨hfirst _ goal_machine, ?_, haccepted missesConfig⟩
  rw [← hload]
  apply hkept.mpr
  rintro ⟨out, parent, -, -, hfault⟩
  cases hload.symm.trans hfault

open Listed in
/-- An output path that was refused is accepted once there is a configuration file. -/
theorem exists_settings_changed :
    (Settings.load machine.disk machine.environment Environment.defaultFamily through).outcome =
        .error (.outputDirectoryNotFound SettingsFile.defaultName) ∧
      (∃ settings, (Settings.load (machine.after .init).disk machine.environment
        Environment.defaultFamily through).outcome = .ok settings) ∧
      ¬ ∀ (machine : Machine) (family : String) (arguments : Arguments),
        arguments.config = none →
        SettingsFile.first? machine.disk machine.environment.configPlaces = none →
          (Settings.load (machine.after .init).disk machine.environment family arguments).outcome =
            (Settings.load machine.disk machine.environment family arguments).outcome := by
  have hconfig : through.config = none := rfl
  obtain ⟨-, -, haccepted⟩ := outcome_after_init Environment.defaultFamily hconfig first?_machine
  obtain ⟨settings, hafter⟩ := haccepted missesConfig
  obtain ⟨hload, -⟩ := outcomes_load
  refine ⟨hload, ⟨settings, hafter⟩, ?_⟩
  intro h
  have hsame := h machine Environment.defaultFamily through rfl first?_machine
  cases hafter.symm.trans (hsame.trans hload)

end Command

end Showcase
