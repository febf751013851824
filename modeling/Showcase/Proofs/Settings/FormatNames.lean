import Mathlib.Logic.ExistsUnique
import Showcase.Proofs.Disk.Bytes
import Showcase.Proofs.Settings.Sources
import Showcase.Proofs.Toml.Strings

namespace Showcase

/-!
# Names of formats in the sources of settings

The format can be named in the environment, in a configuration file and on the command line, and
each of them has its own list of names.  The lists are nested, and a name stands for the same format
wherever it is known.
-/

namespace OutputFormat

/-- The names of a format: its own, and a short one for markdown. -/
def names : OutputFormat → List String
  | markdown => ["markdown", "md"]
  | format => [format.name]

/-- A text in small letters, as far as the name of a format can have them. -/
def inSmallLetters (s : String) : String := String.ofList (s.toList.map smallLetter)

theorem name_mem_names (format : OutputFormat) : format.name ∈ format.names := by
  cases format <;> decide

theorem inSmallLetters_of_mem_names {s : String} {format : OutputFormat} (h : s ∈ format.names) :
    inSmallLetters s = s := by
  revert s
  cases format <;> decide

theorem ofName?_eq_some_iff {s : String} {format : OutputFormat} :
    ofName? s = some format ↔ s = format.name := by
  constructor
  · intro h
    unfold ofName? at h
    split at h <;> first | cases h; rfl | cases h
  · rintro rfl
    exact ofName?_name format

theorem ofNameOrAlias?_eq_some_iff {s : String} {format : OutputFormat} :
    ofNameOrAlias? s = some format ↔ s ∈ format.names := by
  by_cases hmd : s = "md"
  · subst hmd
    cases format <;> decide
  · have hname : ofNameOrAlias? s = ofName? s := by
      unfold ofNameOrAlias?
      split
      · exact absurd rfl hmd
      · rfl
    rw [hname, ofName?_eq_some_iff]
    cases format <;> simp [names, name, hmd]

theorem ofNameOrAlias?_of_hyphen {s : String} {cs : List Char} (hs : s.toList = '-' :: cs) :
    ofNameOrAlias? s = none := by
  have hnames : ∀ format : OutputFormat, ∀ s ∈ format.names, s.toList.head? ≠ some '-' := by
    intro format
    cases format <;> decide
  cases h : ofNameOrAlias? s with
  | none => rfl
  | some format =>
      exact absurd (by rw [hs, List.head?_cons]) (hnames format s (ofNameOrAlias?_eq_some_iff.mp h))

theorem ofAnyCase?_eq_some_iff {s : String} {format : OutputFormat} :
    ofAnyCase? s = some format ↔ inSmallLetters s ∈ format.names :=
  ofNameOrAlias?_eq_some_iff

/-- The layer that sets a format and nothing else. -/
def alone (format : OutputFormat) : PartialSettings :=
  PartialSettings.empty.put .outputFormat format

theorem alone_injective {format other : OutputFormat} (h : format.alone = other.alone) :
    format = other :=
  Option.some.inj (congrArg PartialSettings.outputFormat h)

end OutputFormat

open OutputFormat (inSmallLetters alone)

/-! ## One source at a time -/

theorem Environment.variableName_injective {family key other : String}
    (h : variableName family key = variableName family other) : key = other :=
  (String.append_right_inj _).mp h

theorem Environment.layer_of_format {environment : Environment} {family s : String}
    (hformat : environment.value? family "OUTPUT_FORMAT" = some s)
    (hother : ∀ key ∈ keys, key ≠ "OUTPUT_FORMAT" → environment.value? family key = none) :
    (environment.layer family).toOption =
      (OutputFormat.ofAnyCase? s).map alone := by
  have hflag (key : String) (hkey : key ∈ keys) (hne : key ≠ "OUTPUT_FORMAT") :
      environment.flag family key = .ok none := by rw [flag, hother key hkey hne]
  rw [layer, hflag "JS_ONLY" (by decide) (by decide), hflag "PARALLEL" (by decide) (by decide),
    hflag "FAIL_FAST" (by decide) (by decide), hother "SCAN_PATH" (by decide) (by decide),
    hother "EXCLUDE" (by decide) (by decide), hother "CONFIG_NAME" (by decide) (by decide), format]
  simp only [hformat]
  cases OutputFormat.ofAnyCase? s <;> rfl

theorem SettingsFile.parse_of_format {text s : String}
    (h : Toml.parse? text = some [("output_format", .string s)]) (path : String) :
    (parse path text).toOption =
      (OutputFormat.ofName? s).map alone := by
  have hlookup : setters.lookup "output_format" = some (setter .outputFormat) :=
    lookup_setters .outputFormat
  have hlayer : layer? [("output_format", .string s)] =
      (OutputFormat.ofName? s).map alone := by
    rw [layer?, layerFrom?, hlookup]
    cases hname : OutputFormat.ofName? s <;>
      simp [setter, Setting.ofToml?, Toml.format?, hname, layerFrom?, alone]
  rw [parse, h, Option.bind_some, hlayer]
  cases OutputFormat.ofName? s <;> rfl

namespace Arguments

namespace Partway

/-! An option whose value is missing cannot be taken over, so no name can follow it. -/

variable (taken : Arguments) (o : ValueOption)

theorem long_of_missing (cs : List Char) :
    ∃ fault, long ⟨taken, some (o, none)⟩ cs = .error fault := by
  unfold long
  dsimp only
  split <;> exact ⟨_, rfl⟩

theorem short_of_missing (c : Char) (cs : List Char) :
    ∃ fault, short ⟨taken, some (o, none)⟩ (c :: cs) = .error fault := by
  rw [short]
  cases ArgumentName.ofShort? c with
  | none => exact ⟨_, rfl⟩
  | some name =>
      cases name with
      | switch s => exact ⟨.invalidValue, rfl⟩
      | option other =>
          dsimp only
          split <;> exact ⟨.invalidValue, rfl⟩

theorem word_of_missing (s : String) :
    (∃ fault, word ⟨taken, some (o, none)⟩ s = .error fault) ∧ (∃ c cs, s.toList = '-' :: c :: cs) ∨
      word ⟨taken, some (o, none)⟩ s = .ok ⟨taken, some (o, some s)⟩ := by
  unfold word
  split
  · rename_i name heq
    exact .inl ⟨long_of_missing taken o name, '-', name, heq⟩
  · rename_i c cs hne heq
    exact .inl ⟨short_of_missing taken o c cs, c, cs, heq⟩
  · exact .inr rfl

end Partway

theorem parse_output (s : String) :
    (parse ["--output", s]).toOption.map layer =
      (OutputFormat.ofNameOrAlias? s).map alone := by
  have hfirst : Partway.word ⟨empty, none⟩ "--output" = .ok ⟨empty, some (.output, none)⟩ := by rfl
  have hne : ("--output" : String) ≠ "--" := by decide
  rw [parse, Partway.words, if_neg hne, hfirst]
  dsimp only
  rw [Partway.words]
  by_cases hend : s = "--"
  · subst hend
    rfl
  · rw [if_neg hend]
    obtain ⟨⟨fault, hfault⟩, c, cs, hs⟩ | hword := Partway.word_of_missing empty .output s
    · rw [hfault, OutputFormat.ofNameOrAlias?_of_hyphen hs]
      rfl
    · have hsettle : Partway.settle ⟨empty, some (.output, some s)⟩ =
          once none (formatValue s) fun v => { empty with output := some v } := rfl
      rw [hword]
      dsimp only
      rw [Partway.words, hsettle, formatValue]
      cases OutputFormat.ofNameOrAlias? s <;> rfl

end Arguments

/-! ## The sources next to each other -/

/-- The places where a format can be named. -/
inductive FormatSource where
  | environment
  | file
  | commandLine
deriving DecidableEq, Repr

namespace FormatSource

/-- `source.Makes s layer?` tells what comes of a source that names the format `s` and says nothing
else: the layer that it makes, or none if it is rejected. -/
inductive Makes : FormatSource → String → Option PartialSettings → Prop
  | environment {environment : Environment} {family s : String}
      (hformat : environment.value? family "OUTPUT_FORMAT" = some s)
      (hother : ∀ key ∈ Environment.keys, key ≠ "OUTPUT_FORMAT" →
        environment.value? family key = none) :
      Makes .environment s (environment.layer family).toOption
  | file {path text s : String}
      (hentries : Toml.parse? text = some [("output_format", .string s)]) :
      Makes .file s (SettingsFile.parse path text).toOption
  | commandLine {s : String} :
      Makes .commandLine s ((Arguments.parse ["--output", s]).toOption.map Arguments.layer)

/-- The texts that a source takes for the name of a format. -/
def Knows : FormatSource → String → OutputFormat → Prop
  | .environment, s, format => inSmallLetters s ∈ format.names
  | .file, s, format => s = format.name
  | .commandLine, s, format => s ∈ format.names

instance (source : FormatSource) (s : String) (format : OutputFormat) :
    Decidable (source.Knows s format) :=
  match source with
  | .environment => inferInstanceAs (Decidable (_ ∈ _))
  | .file => inferInstanceAs (Decidable (_ = _))
  | .commandLine => inferInstanceAs (Decidable (_ ∈ _))

/-- The format that a text names in a source. -/
def format? : FormatSource → String → Option OutputFormat
  | .environment => OutputFormat.ofAnyCase?
  | .file => OutputFormat.ofName?
  | .commandLine => OutputFormat.ofNameOrAlias?

theorem format?_eq_some_iff {source : FormatSource} {s : String} {format : OutputFormat} :
    source.format? s = some format ↔ source.Knows s format := by
  cases source with
  | environment => exact OutputFormat.ofAnyCase?_eq_some_iff
  | file => exact OutputFormat.ofName?_eq_some_iff
  | commandLine => exact OutputFormat.ofNameOrAlias?_eq_some_iff

theorem exists_makes (source : FormatSource) (s : String) : ∃ layer?, source.Makes s layer? := by
  cases source with
  | environment =>
      let environment : Environment :=
        [(Environment.variableName Environment.defaultFamily "OUTPUT_FORMAT", Path.ofText s)]
      have hformat : environment.value? Environment.defaultFamily "OUTPUT_FORMAT" = some s := by
        rw [Environment.value?, List.lookup_cons_self, Option.bind_some, Path.text?_ofText]
      have hother : ∀ key ∈ Environment.keys, key ≠ "OUTPUT_FORMAT" →
          environment.value? Environment.defaultFamily key = none := by
        intro key _ hne
        have hname : Environment.variableName Environment.defaultFamily key ≠
            Environment.variableName Environment.defaultFamily "OUTPUT_FORMAT" :=
          fun h => hne (Environment.variableName_injective h)
        rw [Environment.value?, List.lookup_cons, beq_false_of_ne hname]
        rfl
      exact ⟨_, .environment hformat hother⟩
  | file =>
      have hchars : "output_format".toList.all Toml.isKeyChar = true := by decide
      obtain ⟨text, htext⟩ := Toml.exists_parse?_eq (by decide) (List.all_eq_true.mp hchars) s
      exact ⟨(SettingsFile.parse SettingsFile.defaultName text).toOption, .file htext⟩
  | commandLine => exact ⟨_, .commandLine⟩

theorem makes_iff {source : FormatSource} {s : String} {layer? : Option PartialSettings} :
    source.Makes s layer? ↔ layer? = (source.format? s).map alone := by
  -- A source makes nothing else of `s`, and it makes something of every text.
  have hmakes {layer? : Option PartialSettings} (h : source.Makes s layer?) :
      layer? = (source.format? s).map alone := by
    cases h with
    | environment hformat hother => exact Environment.layer_of_format hformat hother
    | file hentries => exact SettingsFile.parse_of_format hentries _
    | commandLine => exact Arguments.parse_output s
  constructor
  · exact hmakes
  · rintro rfl
    obtain ⟨made, hmade⟩ := exists_makes source s
    exact hmakes hmade ▸ hmade

theorem makes_alone_iff {source : FormatSource} {s : String} {format : OutputFormat} :
    source.Makes s (some format.alone) ↔ source.Knows s format := by
  rw [makes_iff, ← format?_eq_some_iff]
  constructor
  · intro h
    obtain ⟨other, hother, heq⟩ := Option.map_eq_some_iff.mp h.symm
    rw [hother, OutputFormat.alone_injective heq]
  · intro h
    rw [h, Option.map_some]

theorem makes_none_iff {source : FormatSource} {s : String} :
    source.Makes s none ↔ ∀ format, ¬ source.Knows s format := by
  rw [makes_iff, eq_comm, Option.map_eq_none_iff, Option.eq_none_iff_forall_ne_some]
  exact forall_congr' fun format => not_congr format?_eq_some_iff

/-- What a configuration file knows is known on the command line, and what is known there is known
in the environment. -/
theorem Knows.nested {s : String} {format : OutputFormat} :
    (file.Knows s format → commandLine.Knows s format) ∧
      (commandLine.Knows s format → environment.Knows s format) := by
  constructor
  · rintro rfl
    exact OutputFormat.name_mem_names format
  · intro h
    rw [Knows, OutputFormat.inSmallLetters_of_mem_names h]
    exact h

theorem Knows.environment {source : FormatSource} {s : String} {format : OutputFormat}
    (h : source.Knows s format) : FormatSource.environment.Knows s format := by
  cases source with
  | environment => exact h
  | file => exact Knows.nested.2 (Knows.nested.1 h)
  | commandLine => exact Knows.nested.2 h

theorem Knows.eq {source other : FormatSource} {s : String} {format format' : OutputFormat}
    (h : source.Knows s format) (h' : other.Knows s format') : format = format' := by
  have hread := format?_eq_some_iff.mpr h.environment
  have hread' := format?_eq_some_iff.mpr h'.environment
  exact Option.some.inj (hread.symm.trans hread')

/-- Each source makes one thing of every text that is given as the name of the format: the layer
that sets the format of that name alone, or nothing if it knows no format of that name.  Sources
that take a text take it for the same format, and what a file takes is taken on the command line
and in the environment.  All of them do the same with a text just if it is the name of a format,
or if not even in small letters it is one of the names or the short name. -/
theorem makes_of_name (s : String) :
    (∀ source : FormatSource, (∃! layer?, source.Makes s layer?) ∧
      (∀ format, source.Makes s (some format.alone) ↔ source.Knows s format) ∧
      (source.Makes s none ↔ ∀ format, ¬ source.Knows s format)) ∧
    (∀ (source other : FormatSource) (format format' : OutputFormat),
      source.Knows s format → other.Knows s format' → format = format') ∧
    (∀ format, (file.Knows s format → commandLine.Knows s format) ∧
      (commandLine.Knows s format → environment.Knows s format)) ∧
    ((∃ layer?, ∀ source : FormatSource, source.Makes s layer?) ↔
      (∃ format : OutputFormat, s = format.name) ∨
        ∀ format : OutputFormat, inSmallLetters s ∉ format.names) := by
  refine ⟨fun source => ⟨?_, fun format => makes_alone_iff, makes_none_iff⟩,
    fun source other format format' => Knows.eq, fun format => Knows.nested, ?_⟩
  · exact ⟨_, makes_iff.mpr rfl, fun layer? hlayer => makes_iff.mp hlayer⟩
  constructor
  · rintro ⟨layer?, hall⟩
    have hlayer := makes_iff.mp (hall file)
    cases hname : file.format? s with
    | some format => exact .inl ⟨format, format?_eq_some_iff.mp hname⟩
    | none =>
        rw [hname, Option.map_none] at hlayer
        subst hlayer
        exact .inr (makes_none_iff.mp (hall environment))
  · rintro (⟨format, hformat⟩ | hno)
    · have hline : commandLine.Knows s format := Knows.nested.1 hformat
      refine ⟨some format.alone, fun source => makes_alone_iff.mpr ?_⟩
      cases source with
      | environment => exact Knows.nested.2 hline
      | file => exact hformat
      | commandLine => exact hline
    · exact ⟨none, fun source => makes_none_iff.mpr fun format h => hno format h.environment⟩

/-- The short name of markdown is rejected in a file. -/
theorem not_always_made_alike :
    ¬ ∀ s, (∀ source : FormatSource, source.Makes s none) ∨
      ∃ format : OutputFormat, ∀ source : FormatSource, source.Makes s (some format.alone) := by
  intro h
  obtain hnone | ⟨format, hall⟩ := h "md"
  · exact makes_none_iff.mp (hnone commandLine) .markdown (by decide)
  · have hname : "md" = format.name := makes_alone_iff.mp (hall file)
    revert hname
    cases format <;> decide

end FormatSource

end Showcase
