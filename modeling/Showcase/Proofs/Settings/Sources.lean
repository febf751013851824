import Showcase.Settings.Layers
import Showcase.Proofs.Settings.Fields

namespace Showcase

/-!
# What sources of settings say

A configuration file, the environment and the command line each have their own words for a
setting, and none has a word that touches another setting.
-/

namespace Setting

def all : List Setting :=
  [scanPath, excludePatterns, configName, jsOnly, outputFormat, outputFile, parallel, failFast,
    quiet, verbose, useColors, showProgress, followLinks]

/-! ## Configuration files -/

/-- The name of a setting in a configuration file. -/
def key : Setting → String
  | scanPath => "scan_path"
  | excludePatterns => "exclude_patterns"
  | configName => "config_name"
  | jsOnly => "js_only"
  | outputFormat => "output_format"
  | outputFile => "output_file"
  | parallel => "parallel"
  | failFast => "fail_fast"
  | quiet => "quiet"
  | verbose => "verbose"
  | useColors => "use_colors"
  | showProgress => "show_progress"
  | followLinks => "follow_links"

theorem key_injective {s other : Setting} (h : s.key = other.key) : s = other := by
  cases s <;> cases other <;> first | rfl | exact absurd h (by decide)

/-- What a value in a configuration file sets a setting to, if it has the right type. -/
def ofToml? : (s : Setting) → Toml → Option s.Value
  | excludePatterns => Toml.texts?
  | scanPath | configName | outputFile => Toml.path?
  | outputFormat => Toml.format?
  | jsOnly | parallel | failFast | quiet | verbose | useColors | showProgress
  | followLinks => Toml.flag?

end Setting

namespace PartialSettings

/-- A layer that says what `layer` says and a value for one setting. -/
def put (layer : PartialSettings) : (s : Setting) → s.Value → PartialSettings
  | .scanPath, value => { layer with scanPath := some value }
  | .excludePatterns, value => { layer with excludePatterns := some value }
  | .configName, value => { layer with configName := some value }
  | .jsOnly, value => { layer with jsOnly := some value }
  | .outputFormat, value => { layer with outputFormat := some value }
  | .outputFile, value => { layer with outputFile := some value }
  | .parallel, value => { layer with parallel := some value }
  | .failFast, value => { layer with failFast := some value }
  | .quiet, value => { layer with quiet := some value }
  | .verbose, value => { layer with verbose := some value }
  | .useColors, value => { layer with useColors := some value }
  | .showProgress, value => { layer with showProgress := some value }
  | .followLinks, value => { layer with followLinks := some value }

theorem said_put_self (layer : PartialSettings) (s : Setting) (value : s.Value) :
    (layer.put s value).said s = some value := by
  cases s <;> rfl

theorem said_put_of_ne (layer : PartialSettings) {s other : Setting} (value : s.Value)
    (h : other ≠ s) : (layer.put s value).said other = layer.said other := by
  cases s <;> cases other <;> first | rfl | exact absurd rfl h

end PartialSettings

namespace SettingsFile

/-- How a value in a configuration file changes a layer. -/
def setter (s : Setting) : Setter := fun v layer => (s.ofToml? v).map (layer.put s)

theorem setters_eq_map : setters = Setting.all.map fun s => (s.key, setter s) := rfl

theorem lookup_setters (s : Setting) : setters.lookup s.key = some (setter s) := by
  cases s <;> rfl

theorem eq_of_lookup_setters {key : String} {set : Setter} (h : setters.lookup key = some set) :
    ∃ s : Setting, key = s.key ∧ set = setter s := by
  obtain ⟨before, after, hsplit, -⟩ := List.lookup_eq_some_iff.mp h
  have hmem : (key, set) ∈ setters := by
    rw [hsplit]
    exact List.mem_append_right _ List.mem_cons_self
  rw [setters_eq_map] at hmem
  obtain ⟨s, -, hs⟩ := List.mem_map.mp hmem
  obtain ⟨rfl, rfl⟩ := Prod.mk.inj hs
  exact ⟨s, rfl, rfl⟩

/-- The last value that a key has among entries. -/
def lastValue? (entries : Toml.Entries) (key : String) : Option Toml := entries.reverse.lookup key

theorem lastValue?_cons (key : String) (v : Toml) (rest : Toml.Entries) (other : String) :
    lastValue? ((key, v) :: rest) other =
      (lastValue? rest other).or (if other = key then some v else none) := by
  rw [lastValue?, List.reverse_cons, List.lookup_append, lastValue?]
  by_cases h : other = key
  · simp [h]
  · have hne : (other == key) = false := by simpa using h
    simp [List.lookup_cons, hne, h]

theorem said_of_layerFrom? {layer result : PartialSettings} {entries : Toml.Entries}
    (h : layerFrom? layer entries = some result) (s : Setting) :
    result.said s =
      match lastValue? entries s.key with
      | some v => s.ofToml? v
      | none => layer.said s := by
  induction entries generalizing layer with
  | nil =>
      obtain rfl := Option.some.inj h
      rfl
  | cons entry rest ih =>
      obtain ⟨key, v⟩ := entry
      -- An entry counts for `s` only if it has its key and no later one has.
      obtain ⟨next, hrest, hnext⟩ : ∃ next, layerFrom? next rest = some result ∧
          next.said s = if s.key = key then s.ofToml? v else layer.said s := by
        rw [layerFrom?] at h
        cases hset : setters.lookup key with
        | none =>
            have hkey : s.key ≠ key := by
              rintro rfl
              rw [lookup_setters] at hset
              cases hset
            rw [hset] at h
            obtain ⟨-, hrest⟩ := Option.ite_none_right_eq_some.mp h
            exact ⟨layer, hrest, (if_neg hkey).symm⟩
        | some set =>
            obtain ⟨other, rfl, rfl⟩ := eq_of_lookup_setters hset
            rw [hset] at h
            obtain ⟨next, hnext, hrest⟩ := Option.bind_eq_some_iff.mp h
            obtain ⟨value, hvalue, rfl⟩ := Option.map_eq_some_iff.mp hnext
            refine ⟨_, hrest, ?_⟩
            by_cases hs : s = other
            · subst hs
              rw [PartialSettings.said_put_self, if_pos rfl, hvalue]
            · have hkey : s.key ≠ other.key := fun hkey => hs (Setting.key_injective hkey)
              rw [PartialSettings.said_put_of_ne _ _ hs, if_neg hkey]
      rw [ih hrest, lastValue?_cons, hnext]
      cases lastValue? rest s.key with
      | some v' => rfl
      | none =>
          by_cases hkey : s.key = key
          · simp [hkey]
          · simp [hkey]

theorem said_of_load {disk : Disk} {path : String} {layer : PartialSettings}
    (h : load disk path = .ok layer) :
    ∃ text entries, disk.readText path = .ok text ∧ Toml.parse? text = some entries ∧
      ∀ s : Setting, layer.said s = (lastValue? entries s.key).bind s.ofToml? := by
  unfold load at h
  split at h
  · cases h
  · cases htext : disk.readText path with
    | error fault =>
        rw [htext] at h
        cases h
    | ok text =>
        simp only [htext, parse] at h
        split at h
        · cases h
        · rename_i read hread
          obtain ⟨entries, hentries, hlayer⟩ := Option.bind_eq_some_iff.mp hread
          split at h
          · obtain rfl := Except.ok.inj h
            refine ⟨text, entries, rfl, hentries, fun s => ?_⟩
            rw [said_of_layerFrom? hlayer, PartialSettings.said_empty]
            cases lastValue? entries s.key <;> rfl
          · cases h

end SettingsFile

/-! ## The environment -/

namespace Environment

variable {environment : Environment} {family : String} {layer : PartialSettings}

/-- What the variables of a family say about a setting. -/
def said (environment : Environment) (family : String) :
    (s : Setting) → Except Fault (Option s.Value)
  | .scanPath => .ok ((environment.value? family "SCAN_PATH").map Path.ofText)
  | .excludePatterns => .ok ((environment.value? family "EXCLUDE").map listed)
  | .configName => .ok ((environment.value? family "CONFIG_NAME").map Path.ofText)
  | .jsOnly => environment.flag family "JS_ONLY"
  | .outputFormat => environment.format family "OUTPUT_FORMAT"
  | .parallel => environment.flag family "PARALLEL"
  | .failFast => environment.flag family "FAIL_FAST"
  | .outputFile | .quiet | .verbose | .useColors | .showProgress | .followLinks => .ok none

/-- Some variable of a family cannot be read. -/
def Malformed (environment : Environment) (family : String) : Prop :=
  ∃ s fault, environment.said family s = .error fault

theorem said_of_layer (h : environment.layer family = .ok layer) (s : Setting) :
    environment.said family s = .ok (layer.said s) := by
  unfold Environment.layer at h
  obtain ⟨format, hformat, h⟩ := exists_of_bind_eq_ok h
  obtain ⟨jsOnly, hjsOnly, h⟩ := exists_of_bind_eq_ok h
  obtain ⟨parallel, hparallel, h⟩ := exists_of_bind_eq_ok h
  obtain ⟨failFast, hfailFast, h⟩ := exists_of_bind_eq_ok h
  obtain rfl := Except.ok.inj h
  cases s with
  | jsOnly => exact hjsOnly
  | outputFormat => exact hformat
  | parallel => exact hparallel
  | failFast => exact hfailFast
  | scanPath | excludePatterns | configName | outputFile | quiet | verbose | useColors
  | showProgress | followLinks => rfl

theorem exists_layer_of_not_malformed (h : ¬ environment.Malformed family) :
    ∃ layer, environment.layer family = .ok layer := by
  have hsaid : ∀ s, ∃ value, environment.said family s = .ok value := by
    intro s
    cases hs : environment.said family s with
    | ok value => exact ⟨value, rfl⟩
    | error fault => exact absurd ⟨s, fault, hs⟩ h
  obtain ⟨format, hformat⟩ : ∃ value, environment.format family "OUTPUT_FORMAT" = .ok value :=
    hsaid .outputFormat
  obtain ⟨jsOnly, hjsOnly⟩ : ∃ value, environment.flag family "JS_ONLY" = .ok value :=
    hsaid .jsOnly
  obtain ⟨parallel, hparallel⟩ : ∃ value, environment.flag family "PARALLEL" = .ok value :=
    hsaid .parallel
  obtain ⟨failFast, hfailFast⟩ : ∃ value, environment.flag family "FAIL_FAST" = .ok value :=
    hsaid .failFast
  rw [layer, hformat, hjsOnly, hparallel, hfailFast]
  exact ⟨_, rfl⟩

theorem malformed_iff :
    environment.Malformed family ↔ ∃ fault, environment.layer family = .error fault := by
  constructor
  · rintro ⟨s, fault, hs⟩
    cases hlayer : environment.layer family with
    | error fault => exact ⟨fault, rfl⟩
    | ok layer =>
        rw [said_of_layer hlayer] at hs
        cases hs
  · rintro ⟨fault, hfault⟩
    refine Classical.byContradiction fun hsound => ?_
    obtain ⟨layer, hlayer⟩ := exists_layer_of_not_malformed hsound
    rw [hfault] at hlayer
    cases hlayer

theorem said_of_not_speaks (h : environment.speaks family = false) (s : Setting) :
    environment.said family s = .ok none := by
  have hnone : ∀ key ∈ keys, environment.value? family key = none := by
    intro key hkey
    have hsilent := List.any_eq_false.mp h key hkey
    simpa using hsilent
  have hflag : ∀ key ∈ keys, environment.flag family key = .ok none := by
    intro key hkey
    rw [flag, hnone key hkey]
  cases s with
  | scanPath =>
      rw [said, hnone "SCAN_PATH" (by decide)]
      rfl
  | excludePatterns =>
      rw [said, hnone "EXCLUDE" (by decide)]
      rfl
  | configName =>
      rw [said, hnone "CONFIG_NAME" (by decide)]
      rfl
  | jsOnly => exact hflag "JS_ONLY" (by decide)
  | outputFormat => rw [said, format, hnone "OUTPUT_FORMAT" (by decide)]
  | parallel => exact hflag "PARALLEL" (by decide)
  | failFast => exact hflag "FAIL_FAST" (by decide)
  | outputFile | quiet | verbose | useColors | showProgress | followLinks => rfl

/-- What a family of variables says about a setting, if all of them can be read. -/
def heard (environment : Environment) (family : String) (s : Setting) : Option s.Value :=
  match environment.layer family, environment.said family s with
  | .ok _, .ok value => value
  | _, _ => none

theorem heard_of_layer (h : environment.layer family = .ok layer) (s : Setting) :
    environment.heard family s = layer.said s := by
  rw [heard, h, said_of_layer h]

theorem heard_of_malformed (h : environment.Malformed family) (s : Setting) :
    environment.heard family s = none := by
  obtain ⟨fault, hfault⟩ := malformed_iff.mp h
  rw [heard, hfault]

end Environment

/-! ## The command line -/

namespace Arguments

/-- What the arguments say about a setting. -/
def said (arguments : Arguments) : (s : Setting) → Option s.Value
  | .scanPath => arguments.path
  | .excludePatterns => if arguments.exclude = [] then none else some arguments.exclude
  | .configName => arguments.configName.map Path.ofText
  | .jsOnly => if .jsOnly ∈ arguments.switches then some true else none
  | .outputFormat => arguments.output
  | .outputFile => arguments.outputFile
  | .parallel => if .noParallel ∈ arguments.switches then some false else none
  | .failFast => if .failFast ∈ arguments.switches then some true else none
  | .quiet => if .quiet ∈ arguments.switches then some true else none
  | .verbose => if .verbose ∈ arguments.switches then some true else none
  | .useColors => if .noColors ∈ arguments.switches then some false else none
  | .showProgress => if .noProgress ∈ arguments.switches then some false else none
  | .followLinks => if .followLinks ∈ arguments.switches then some true else none

theorem said_layer (arguments : Arguments) (s : Setting) :
    arguments.layer.said s = arguments.said s := by
  cases s with
  | excludePatterns => simp [layer, said, PartialSettings.said]
  | scanPath | configName | jsOnly | outputFormat | outputFile | parallel | failFast | quiet
  | verbose | useColors | showProgress | followLinks => rfl

end Arguments

end Showcase
