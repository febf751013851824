import Mathlib.Data.String.Basic
import Showcase.Proofs.Disk.Bytes
import Showcase.Proofs.Json.Written
import Showcase.Report.Restore

namespace Showcase

/-!
# Results are read back from what is written of them

Results are written exactly if all of their paths are texts.  Each record is then written with the
names under which it is read, and each choice with a name that is read as the same choice.  What is
lost is the part of the duration below a millisecond.
-/

namespace Json

/-! ## Values that are kept -/

/-- A value as it is kept: the members of its objects stand in ascending order of their names. -/
inductive Sorted : Json → Prop
  | null : Sorted .null
  | bool (b : Bool) : Sorted (.bool b)
  | number (n : JsonNumber) : Sorted (.number n)
  | string (s : String) : Sorted (.string s)
  | array {items : List Json} (h : ∀ v ∈ items, Sorted v) : Sorted (.array items)
  | object {ms : List (String × Json)} (names : ms.Pairwise fun m m' => m.1 < m'.1)
      (h : ∀ m ∈ ms, Sorted m.2) : Sorted (.object ms)

theorem insert_eq_append {key : String} (v : Json) {kept : List (String × Json)}
    (h : ∀ m ∈ kept, m.1 < key) : insert key v kept = kept ++ [(key, v)] := by
  induction kept with
  | nil => rfl
  | cons m ms ih =>
      obtain ⟨hm, hms⟩ := List.forall_mem_cons.mp h
      obtain ⟨k, w⟩ := m
      have hlt : ¬ key < k := lt_asymm hm
      have hne : key ≠ k := (ne_of_lt hm).symm
      rw [insert, if_neg hlt, if_neg hne, ih hms, List.cons_append]

theorem orderedMembers_eq_append {kept ms : List (String × Json)}
    (hnames : (kept ++ ms).Pairwise fun m m' => m.1 < m'.1) (h : ∀ m ∈ ms, m.2.ordered = m.2) :
    orderedMembers kept ms = kept ++ ms := by
  induction ms generalizing kept with
  | nil => rw [orderedMembers, List.append_nil]
  | cons m ms ih =>
      obtain ⟨key, v⟩ := m
      obtain ⟨hv, hms⟩ := List.forall_mem_cons.mp h
      obtain ⟨-, -, hbefore⟩ := List.pairwise_append.mp hnames
      have hkey : ∀ m ∈ kept, m.1 < key := fun m hm => hbefore m hm _ List.mem_cons_self
      rw [List.append_cons] at hnames ⊢
      rw [orderedMembers, hv, insert_eq_append v hkey, ih hnames hms]

theorem orderedItems_eq_self {items : List Json} (h : ∀ v ∈ items, v.ordered = v) :
    orderedItems items = items := by
  induction items with
  | nil => rfl
  | cons v vs ih =>
      obtain ⟨hv, hvs⟩ := List.forall_mem_cons.mp h
      rw [orderedItems, hv, ih hvs]

theorem Sorted.ordered_eq_self {v : Json} (h : v.Sorted) : v.ordered = v := by
  induction h with
  | null | bool | number | string => rfl
  | array hitems ih => rw [ordered, orderedItems_eq_self ih]
  | @object ms hnames hms ih =>
      have hkept := orderedMembers_eq_append (List.nil_append ms ▸ hnames) ih
      rw [ordered, hkept, List.nil_append]

/-- A value that an option may hold: its members are in order, its numbers are read from what is
written of them, and it is not the value that stands for no option. -/
structure Kept (v : Json) : Prop where
  sorted : v.Sorted
  legible : v.Legible
  ne_null : v ≠ .null

/-! ## Parts of records -/

theorem count?_count {n : Nat} (h : n ≤ Reader.largestWhole) :
    count? (Report.count n) = some n := by
  have hcast : (0 : Int) ≤ n ∧ (n : Int) ≤ Reader.largestWhole := by
    exact ⟨Int.natCast_nonneg n, Int.ofNat_le.mpr h⟩
  rw [Report.count, count?, if_pos hcast, Int.toNat_natCast]

theorem legible_count {n : Nat} (h : n ≤ Reader.largestWhole) : (Report.count n).Legible :=
  .number (JsonNumber.legible_natCast h)

theorem optional?_optionalText (text : Option String) :
    optional? text? (some (Report.optionalText text)) = some text := by
  cases text <;> rfl

@[simp] theorem legible_string (s : String) : (Json.string s).Legible := .string s

@[simp] theorem legible_optionalText (text : Option String) :
    (Report.optionalText text).Legible := by
  cases text with
  | none => exact .null
  | some s => exact .string s

@[simp] theorem legible_object_nil : (Json.object []).Legible := .object nofun

@[simp] theorem legible_object_cons {key : String} {v : Json} {ms : List (String × Json)} :
    (Json.object ((key, v) :: ms)).Legible ↔ v.Legible ∧ (Json.object ms).Legible := by
  constructor
  · rintro (_ | _ | _ | _ | _ | hms)
    obtain ⟨hv, hms⟩ := List.forall_mem_cons.mp hms
    exact ⟨hv, .object hms⟩
  · rintro ⟨hv, _ | _ | _ | _ | _ | hms⟩
    exact .object (List.forall_mem_cons.mpr ⟨hv, hms⟩)

theorem legible_array_map {write : α → Json} {items : List α}
    (h : ∀ a ∈ items, (write a).Legible) : (Json.array (items.map write)).Legible := by
  refine .array fun v hv => ?_
  obtain ⟨a, ha, rfl⟩ := List.mem_map.mp hv
  exact h a ha

theorem listOf?_map {write : α → Json} {read : Json → Option α} {items : List α}
    (h : ∀ a ∈ items, read (write a) = some a) :
    listOf? read (.array (items.map write)) = some items := by
  unfold listOf?
  induction items with
  | nil => rfl
  | cons a rest ih =>
      obtain ⟨ha, hrest⟩ := List.forall_mem_cons.mp h
      simp [List.mapM_cons, ha, ih hrest]

/-- A value from which `read` takes `a`, and whose numbers are read from what is written of
them. -/
structure Saves (v : Json) (read : Json → Option α) (a : α) : Prop where
  read_eq : read v = some a
  legible : v.Legible

/-- What is written of a list is read back if this is so of what it holds. -/
theorem saves_of_mapM {write : α → Except Fault Json} {read : Json → Option α} {items : List α}
    {vs : List Json} (hitems : ∀ a ∈ items, ∀ v, write a = .ok v → v.Saves read a)
    (h : items.mapM write = .ok vs) : (Json.array vs).Saves (listOf? read) items := by
  induction items generalizing vs with
  | nil =>
      obtain rfl := Except.ok.inj h
      exact ⟨rfl, .array nofun⟩
  | cons a rest ih =>
      obtain ⟨ha, hrest⟩ := List.forall_mem_cons.mp hitems
      rw [List.mapM_cons] at h
      obtain ⟨v, hv, h⟩ := exists_of_bind_eq_ok h
      obtain ⟨others, hothers, h⟩ := exists_of_bind_eq_ok h
      obtain rfl := Except.ok.inj h
      obtain ⟨hread, hlegible⟩ := ha v hv
      obtain ⟨hreads, hlegibles⟩ := ih hrest hothers
      have hmapM : others.mapM read = some rest := hreads
      rcases hlegibles with _ | _ | _ | _ | hothers
      exact ⟨by simp [listOf?, hread, hmapM], .array (List.forall_mem_cons.mpr ⟨hlegible, hothers⟩)⟩

end Json

/-! ## Paths that are texts -/

/-- A path all of whose bytes belong to characters. -/
def Path.IsText (path : String) : Prop := (text? path).isSome

instance (path : String) : Decidable (Path.IsText path) :=
  inferInstanceAs (Decidable ((Path.text? path).isSome = true))

/-- An outcome that there is under a condition, and without which a path cannot be written. -/
def WrittenIf (condition : Prop) (outcome : Except Fault α) : Prop :=
  (condition → ∃ a, outcome = .ok a) ∧
    (¬ condition → outcome = .error (.jsonText "path contains invalid UTF-8 characters"))

namespace WrittenIf

theorem bind {p q : Prop} {x : Except Fault α} {f : α → Except Fault β} (hx : WrittenIf p x)
    (hf : ∀ a, WrittenIf q (f a)) : WrittenIf (p ∧ q) (x >>= f) := by
  constructor
  · rintro ⟨hp, hq⟩
    obtain ⟨a, rfl⟩ := hx.1 hp
    exact (hf a).1 hq
  · intro hnot
    by_cases hp : p
    · obtain ⟨a, rfl⟩ := hx.1 hp
      exact (hf a).2 fun hq => hnot ⟨hp, hq⟩
    · rw [hx.2 hp]
      rfl

theorem bind_pure {p : Prop} {x : Except Fault α} (hx : WrittenIf p x) (f : α → β) :
    WrittenIf p (x >>= fun a => pure (f a)) := by
  constructor
  · intro hp
    obtain ⟨a, rfl⟩ := hx.1 hp
    exact ⟨f a, rfl⟩
  · intro hnot
    rw [hx.2 hnot]
    rfl

theorem mapM {p : α → Prop} {write : α → Except Fault β} (h : ∀ a, WrittenIf (p a) (write a))
    (items : List α) : WrittenIf (∀ a ∈ items, p a) (items.mapM write) := by
  induction items with
  | nil => exact ⟨fun _ => ⟨[], rfl⟩, fun hnot => absurd nofun hnot⟩
  | cons a rest ih =>
      rw [List.mapM_cons, List.forall_mem_cons]
      exact (h a).bind fun b => ih.bind_pure (b :: ·)

end WrittenIf

/-! ## Records -/

open Report

theorem Report.writtenIf_pathData (path : String) :
    WrittenIf (Path.IsText path) (pathData path) := by
  unfold WrittenIf Path.IsText pathData
  cases Path.text? path <;> simp

theorem Report.saves_of_pathData {path : String} {v : Json} (h : pathData path = .ok v) :
    v.Saves Json.path? path := by
  unfold pathData at h
  split at h
  · rename_i text htext
    obtain rfl := Except.ok.inj h
    obtain rfl := Path.text?_eq_some_iff.mp htext
    exact ⟨rfl, .string text⟩
  · cases h

theorem Location.writtenIf_locationData (location : Location) :
    WrittenIf (Path.IsText location.path) (locationData location) :=
  (writtenIf_pathData location.path).bind_pure _

theorem Location.saves_of_locationData {location : Location} {v : Json}
    (hline : location.line ≤ Json.Reader.largestWhole)
    (hcolumn : location.column ≤ Json.Reader.largestWhole)
    (h : locationData location = .ok v) : v.Saves ofJson? location := by
  obtain ⟨path, hpath, h⟩ := exists_of_bind_eq_ok h
  obtain rfl := Except.ok.inj h
  obtain ⟨hread, hlegible⟩ := saves_of_pathData hpath
  have hvalues : Record.values? ["path", "line", "column"] (.object [("path", path),
      ("line", count location.line), ("column", count location.column)]) =
        some [some path, some (count location.line), some (count location.column)] := rfl
  constructor
  · rw [ofJson?, hvalues]
    simp [hread, Json.count?_count hline, Json.count?_count hcolumn]
  · simp [hlegible, Json.legible_count hline, Json.legible_count hcolumn]

theorem ComponentSource.ofDisplay?_display (source : ComponentSource) :
    ofDisplay? source.display = some source := by
  cases source <;> rfl

theorem Severity.ofTag?_tag (severity : Severity) : ofTag? severity.tag = some severity := by
  cases severity <;> rfl

theorem Snippet.writtenIf_snippetData (snippet : Snippet) :
    WrittenIf (Path.IsText snippet.location.path) (snippetData snippet) :=
  snippet.location.writtenIf_locationData.bind_pure _

theorem Snippet.saves_of_snippetData {snippet : Snippet} {v : Json}
    (hline : snippet.location.line ≤ Json.Reader.largestWhole)
    (hcolumn : snippet.location.column ≤ Json.Reader.largestWhole)
    (h : snippetData snippet = .ok v) : v.Saves ofJson? snippet := by
  obtain ⟨location, hlocation, h⟩ := exists_of_bind_eq_ok h
  obtain rfl := Except.ok.inj h
  obtain ⟨hread, hlegible⟩ := Location.saves_of_locationData hline hcolumn hlocation
  have hvalues : Record.values? ["code", "source", "location"] (.object
      [("code", .string snippet.code), ("source", .string snippet.source.display),
        ("location", location)]) =
      some [some (.string snippet.code), some (.string snippet.source.display),
        some location] := rfl
  have hsource := ComponentSource.ofDisplay?_display snippet.source
  constructor
  · rw [ofJson?, hvalues]
    simp [Json.text?, Json.choice?, hsource, hread]
  · simp [hlegible]

namespace Record

theorem text?_optionalText (text : Option String) : text? (optionalText text) = .ok text := by
  cases text <;> rfl

theorem ordered_optionalText (text : Option String) :
    (optionalText text).ordered = optionalText text := by
  cases text <;> rfl

section Screenshot

variable {screenshot : Option Json} (h : ∀ v ∈ screenshot, v.Kept)

include h

theorem any?_getD : any? (screenshot.getD .null) = screenshot := by
  cases screenshot with
  | none => rfl
  | some v =>
      have hne := (h v rfl).ne_null
      cases v with
      | null => exact absurd rfl hne
      | _ => rfl

theorem ordered_getD : (screenshot.getD .null).ordered = screenshot.getD .null := by
  cases screenshot with
  | none => rfl
  | some v => exact (h v rfl).sorted.ordered_eq_self

theorem legible_getD : (screenshot.getD .null).Legible := by
  cases screenshot with
  | none => exact .null
  | some v => exact (h v rfl).legible

end Screenshot

end Record

theorem EntryOptions.options?_entryOptionsData {options : EntryOptions}
    (h : ∀ v ∈ options.screenshot, v.Kept) :
    Record.options? fields ofJson (entryOptionsData options) = some options := by
  have hordered : (entryOptionsData options).ordered = entryOptionsData options := by
    simp +decide [entryOptionsData, Json.ordered, Json.orderedMembers, Json.insert,
      Record.ordered_optionalText, Record.ordered_getD h]
  have hread : ofJson (entryOptionsData options) = .ok options := by
    simp +decide [ofJson, Record.ofJson, entryOptionsData, Record.ofMembers, fields,
      List.lookup_cons, Except.map, Record.text?_optionalText, Record.any?_getD h]
  have honce : Record.options? fields ofJson (entryOptionsData options) =
      (ofJson (entryOptionsData options).ordered).toOption := rfl
  rw [honce, hordered, hread]
  rfl

theorem EntryOptions.legible_entryOptionsData {options : EntryOptions}
    (h : ∀ v ∈ options.screenshot, v.Kept) : (entryOptionsData options).Legible := by
  have hscreenshot := Record.legible_getD h
  simp [entryOptionsData, hscreenshot]

/-- The members of the options of a component change their places when they are put in order. -/
theorem FolderMeta.options?_metadataData {metadata : FolderMeta}
    (h : ∀ v ∈ metadata.screenshot, v.Kept) :
    Record.options? fields ofJson (metadataData metadata) = some metadata := by
  have hordered : (metadataData metadata).ordered =
      .object [("description", optionalText metadata.description),
        ("readme", optionalText metadata.readme),
        ("screenshot", metadata.screenshot.getD .null),
        ("title", optionalText metadata.title)] := by
    simp +decide [metadataData, Json.ordered, Json.orderedMembers, Json.insert,
      Record.ordered_optionalText, Record.ordered_getD h]
  have honce : Record.options? fields ofJson (metadataData metadata) =
      (ofJson (metadataData metadata).ordered).toOption := rfl
  rw [honce, hordered]
  simp +decide [ofJson, Record.ofJson, Record.ofMembers, fields, List.lookup_cons, Except.map,
    Except.toOption, Record.text?_optionalText, Record.any?_getD h]

theorem FolderMeta.legible_metadataData {metadata : FolderMeta}
    (h : ∀ v ∈ metadata.screenshot, v.Kept) : (metadataData metadata).Legible := by
  have hscreenshot := Record.legible_getD h
  simp [metadataData, hscreenshot]

theorem GlobalOptions.options?_globalData {options : GlobalOptions}
    (h : ∀ v ∈ options.screenshot, v.Kept) :
    Record.options? fields ofJson (globalData options) = some options := by
  have hordered : (globalData options).ordered =
      .object [("description", optionalText options.description),
        ("screenshot", options.screenshot.getD .null),
        ("title", optionalText options.title)] := by
    simp +decide [globalData, Json.ordered, Json.orderedMembers, Json.insert,
      Record.ordered_optionalText, Record.ordered_getD h]
  have honce : Record.options? fields ofJson (globalData options) =
      (ofJson (globalData options).ordered).toOption := rfl
  rw [honce, hordered]
  simp +decide [ofJson, Record.ofJson, Record.ofMembers, fields, List.lookup_cons, Except.map,
    Except.toOption, Record.text?_optionalText, Record.any?_getD h]

theorem GlobalOptions.legible_globalData {options : GlobalOptions}
    (h : ∀ v ∈ options.screenshot, v.Kept) : (globalData options).Legible := by
  have hscreenshot := Record.legible_getD h
  simp [globalData, hscreenshot]

/-- What an entry of the props may hold. -/
structure PropsEntry.Kept (entry : PropsEntry) : Prop where
  index : entry.index ≤ Json.Reader.largestWhole
  screenshot : ∀ v ∈ entry.options.screenshot, v.Kept

theorem PropsEntry.Kept.ofJson?_entryData {entry : PropsEntry} (h : entry.Kept) :
    ofJson? (entryData entry) = some entry := by
  have hvalues : Record.values? ["index", "code", "readme_code", "options"] (entryData entry) =
      some [some (count entry.index), some (.string entry.code),
        some (optionalText entry.readmeCode), some (entryOptionsData entry.options)] := rfl
  have hoptions := EntryOptions.options?_entryOptionsData h.screenshot
  rw [ofJson?, hvalues]
  simp [Json.text?, Json.count?_count h.index, Json.optional?_optionalText, hoptions]

theorem PropsEntry.Kept.legible_entryData {entry : PropsEntry} (h : entry.Kept) :
    (entryData entry).Legible := by
  have hindex := Json.legible_count h.index
  have hoptions := EntryOptions.legible_entryOptionsData h.screenshot
  simp [entryData, hindex, hoptions]

/-- What a component may hold. -/
structure FolderOptions.Kept (component : FolderOptions) : Prop where
  line : component.component.location.line ≤ Json.Reader.largestWhole
  column : component.component.location.column ≤ Json.Reader.largestWhole
  entries : ∀ entry ∈ component.props, entry.Kept
  screenshot : ∀ v ∈ component.metadata.screenshot, v.Kept

/-- Whether the folder of a component, its configuration and the place of its code are texts. -/
def FolderOptions.HasTextPaths (component : FolderOptions) : Prop :=
  Path.IsText component.folder ∧ Path.IsText component.configPath ∧
    Path.IsText component.component.location.path

instance (component : FolderOptions) : Decidable component.HasTextPaths :=
  inferInstanceAs (Decidable (_ ∧ _))

theorem FolderOptions.writtenIf_componentData (component : FolderOptions) :
    WrittenIf component.HasTextPaths (componentData component) :=
  (writtenIf_pathData component.folder).bind fun _ =>
    (writtenIf_pathData component.configPath).bind fun _ =>
      component.component.writtenIf_snippetData.bind_pure _

theorem FolderOptions.Kept.saves_of_componentData {component : FolderOptions} {v : Json}
    (hkept : component.Kept) (h : componentData component = .ok v) :
    v.Saves ofJson? component := by
  obtain ⟨folder, hfolder, h⟩ := exists_of_bind_eq_ok h
  obtain ⟨configPath, hconfigPath, h⟩ := exists_of_bind_eq_ok h
  obtain ⟨snippet, hsnippet, h⟩ := exists_of_bind_eq_ok h
  obtain rfl := Except.ok.inj h
  obtain ⟨hfolderRead, hfolderLegible⟩ := saves_of_pathData hfolder
  obtain ⟨hconfigPathRead, hconfigPathLegible⟩ := saves_of_pathData hconfigPath
  obtain ⟨hsnippetRead, hsnippetLegible⟩ :=
    Snippet.saves_of_snippetData hkept.line hkept.column hsnippet
  have hvalues : Record.values?
      ["name", "folder", "config_path", "language", "component", "props", "meta"]
      (.object [("name", .string component.name), ("folder", folder),
        ("config_path", configPath), ("language", .string component.language.extension),
        ("component", snippet), ("props", .array (component.props.map entryData)),
        ("meta", metadataData component.metadata)]) =
        some [some (.string component.name), some folder, some configPath,
          some (.string component.language.extension), some snippet,
          some (.array (component.props.map entryData)),
          some (metadataData component.metadata)] := rfl
  constructor
  · have hlanguage := Language.ofExtension?_extension component.language
    have hprops : Json.listOf? PropsEntry.ofJson? (.array (component.props.map entryData)) =
        some component.props :=
      Json.listOf?_map fun entry hentry => (hkept.entries entry hentry).ofJson?_entryData
    have hmetadata := FolderMeta.options?_metadataData hkept.screenshot
    rw [ofJson?, hvalues]
    simp [Json.text?, Json.choice?, hfolderRead, hconfigPathRead, hlanguage, hsnippetRead, hprops,
      hmetadata]
  · have hprops : (Json.array (component.props.map entryData)).Legible :=
      Json.legible_array_map fun entry hentry => (hkept.entries entry hentry).legible_entryData
    have hmetadata := FolderMeta.legible_metadataData hkept.screenshot
    simp [hfolderLegible, hconfigPathLegible, hsnippetLegible, hprops, hmetadata]

theorem FolderError.writtenIf_errorData (error : FolderError) :
    WrittenIf (Path.IsText error.folder) (errorData error) :=
  (writtenIf_pathData error.folder).bind_pure _

theorem FolderError.saves_of_errorData {error : FolderError} {v : Json}
    (h : errorData error = .ok v) : v.Saves ofJson? error := by
  obtain ⟨folder, hfolder, h⟩ := exists_of_bind_eq_ok h
  obtain rfl := Except.ok.inj h
  obtain ⟨hread, hlegible⟩ := saves_of_pathData hfolder
  have hvalues : Record.values? ["folder", "message", "severity"] (.object [("folder", folder),
      ("message", .string error.message), ("severity", .string error.severity.tag)]) =
      some [some folder, some (.string error.message), some (.string error.severity.tag)] := rfl
  have hseverity := Severity.ofTag?_tag error.severity
  constructor
  · rw [ofJson?, hvalues]
    simp [Json.text?, Json.choice?, hread, hseverity]
  · simp [hlegible]

/-- What a summary may hold: counts of 64 bits, and a duration that has so many milliseconds. -/
structure Summary.Kept (summary : Summary) : Prop where
  totalFolders : summary.totalFolders ≤ Json.Reader.largestWhole
  components : summary.components ≤ Json.Reader.largestWhole
  propsEntries : summary.propsEntries ≤ Json.Reader.largestWhole
  failedFolders : summary.failedFolders ≤ Json.Reader.largestWhole
  duration : milliseconds summary.duration < durationBound

/-- A summary with its duration rounded down to whole milliseconds. -/
def Summary.rounded (summary : Summary) : Summary :=
  { summary with duration := milliseconds summary.duration * nanosecondsPerMillisecond }

theorem Summary.Kept.ofJson?_summaryData {summary : Summary} (h : summary.Kept) :
    ofJson? (summaryData summary) = some summary.rounded := by
  have hmod := Nat.mod_eq_of_lt h.duration
  have hvalues : Record.values?
      ["total_folders", "components", "props_entries", "failed_folders", "duration"]
      (summaryData summary) =
        some [some (count summary.totalFolders), some (count summary.components),
          some (count summary.propsEntries), some (count summary.failedFolders),
          some (count (milliseconds summary.duration % durationBound))] := rfl
  have hduration : milliseconds summary.duration ≤ Json.Reader.largestWhole :=
    Nat.le_sub_one_of_lt h.duration
  rw [ofJson?, hvalues, hmod]
  simp [Json.count?_count h.totalFolders, Json.count?_count h.components,
    Json.count?_count h.propsEntries, Json.count?_count h.failedFolders,
    Json.count?_count hduration, rounded]

theorem Summary.Kept.legible_summaryData {summary : Summary} (h : summary.Kept) :
    (summaryData summary).Legible := by
  have htotal := Json.legible_count h.totalFolders
  have hcomponents := Json.legible_count h.components
  have hentries := Json.legible_count h.propsEntries
  have hfailed := Json.legible_count h.failedFolders
  have hduration : (count (milliseconds summary.duration % durationBound)).Legible := by
    have hpositive : 0 < durationBound := Nat.two_pow_pos 64
    have hless := Nat.mod_lt (milliseconds summary.duration) hpositive
    exact Json.legible_count (Nat.le_sub_one_of_lt hless)
  simp [summaryData, htotal, hcomponents, hentries, hfailed, hduration]

/-! ## Results -/

/-- What results may hold, among it a point in time that is read from what is written of it. -/
structure Results.Kept (results : Results) : Prop where
  screenshot : ∀ options ∈ results.global, ∀ v ∈ options.screenshot, v.Kept
  components : ∀ component ∈ results.components, component.Kept
  summary : results.summary.Kept
  generatedAt : Timestamp.parse? results.generatedAt.display = some results.generatedAt

namespace Results.Kept

variable {results : Results} (h : results.Kept)

include h

theorem saves_global : (optionalGlobalData results.global).Saves
    (fun v => Json.optional? (Record.options? GlobalOptions.fields GlobalOptions.ofJson) (some v))
    results.global := by
  cases hglobal : results.global with
  | none => exact ⟨rfl, .null⟩
  | some options =>
      have hread := GlobalOptions.options?_globalData (h.screenshot options hglobal)
      have hsome : Json.optional? (Record.options? GlobalOptions.fields GlobalOptions.ofJson)
          (some (globalData options)) =
            (Record.options? GlobalOptions.fields GlobalOptions.ofJson (globalData options)).map
              some := rfl
      refine ⟨?_, GlobalOptions.legible_globalData (h.screenshot options hglobal)⟩
      rw [optionalGlobalData, hsome, hread]
      rfl

theorem saves_of_data {v : Json} (hdata : data results = .ok v) :
    v.Saves ofJson? { results with summary := results.summary.rounded } := by
  obtain ⟨root, hroot, hdata⟩ := exists_of_bind_eq_ok hdata
  obtain ⟨components, hcomponents, hdata⟩ := exists_of_bind_eq_ok hdata
  obtain ⟨errors, herrors, hdata⟩ := exists_of_bind_eq_ok hdata
  obtain rfl := Except.ok.inj hdata
  obtain ⟨hrootRead, hrootLegible⟩ := saves_of_pathData hroot
  obtain ⟨hglobalRead, hglobalLegible⟩ := h.saves_global
  obtain ⟨hcomponentsRead, hcomponentsLegible⟩ := Json.saves_of_mapM
    (fun component hcomponent v hv => (h.components component hcomponent).saves_of_componentData hv)
    hcomponents
  obtain ⟨herrorsRead, herrorsLegible⟩ := Json.saves_of_mapM
    (fun error _ v hv => FolderError.saves_of_errorData hv) herrors
  have hvalues : Record.values?
      ["root", "global", "components", "errors", "summary", "generated_at"]
      (.object [("root", root), ("global", optionalGlobalData results.global),
        ("components", .array components), ("errors", .array errors),
        ("summary", summaryData results.summary),
        ("generated_at", .string results.generatedAt.display)]) =
        some [some root, some (optionalGlobalData results.global), some (.array components),
          some (.array errors), some (summaryData results.summary),
          some (.string results.generatedAt.display)] := rfl
  constructor
  · have hsummary := h.summary.ofJson?_summaryData
    rw [ofJson?, hvalues]
    simp [Json.text?, hrootRead, hglobalRead, hcomponentsRead, herrorsRead, hsummary,
      h.generatedAt]
  · have hsummary := h.summary.legible_summaryData
    simp [hrootLegible, hglobalLegible, hcomponentsLegible, herrorsLegible, hsummary]

end Results.Kept

/-- Whether all paths in results are texts. -/
def Results.HasTextPaths (results : Results) : Prop :=
  Path.IsText results.root ∧ (∀ component ∈ results.components, component.HasTextPaths) ∧
    ∀ error ∈ results.errors, Path.IsText error.folder

instance (results : Results) : Decidable results.HasTextPaths :=
  inferInstanceAs (Decidable (_ ∧ _))

theorem Results.writtenIf_data (results : Results) :
    WrittenIf results.HasTextPaths (data results) :=
  (writtenIf_pathData results.root).bind fun _ =>
    (WrittenIf.mapM FolderOptions.writtenIf_componentData results.components).bind fun _ =>
      (WrittenIf.mapM FolderError.writtenIf_errorData results.errors).bind_pure _

/-! ## Texts -/

theorem Results.writtenIf_json (results : Results) :
    WrittenIf results.HasTextPaths (json results) :=
  results.writtenIf_data.bind_pure (·.pretty 0)

/-- Results all of whose paths are texts are written, and read back from the text that is written
of them, whatever their texts and options hold, if the bound on the nesting allows for it.  Their
duration is then in whole milliseconds.  No other results can be written. -/
theorem Results.ofText?_json {results : Results} (h : results.Kept) :
    (results.HasTextPaths → ∃ v text, data results = .ok v ∧ json results = .ok text ∧
      ∀ limit, v.nesting ≤ limit → ofText? limit text =
        some (results.setDuration
          (milliseconds results.summary.duration * nanosecondsPerMillisecond))) ∧
    (¬ results.HasTextPaths →
      json results = .error (.jsonText "path contains invalid UTF-8 characters")) := by
  constructor
  · intro hpaths
    obtain ⟨v, hdata⟩ := results.writtenIf_data.1 hpaths
    obtain ⟨hread, hlegible⟩ := h.saves_of_data hdata
    have hjson : json results = .ok (v.pretty 0) := by rw [json, hdata]; rfl
    refine ⟨v, v.pretty 0, hdata, hjson, fun limit hlimit => ?_⟩
    rw [ofText?, Json.Reader.document_pretty hlegible hlimit]
    exact hread
  · exact results.writtenIf_json.2

namespace Saved

/-- Options for a screenshot, with numbers of several kinds. -/
def screenshot : Json :=
  .object [("delay", .number (.float (Binary64.ofDecimal false 25 (-2)))),
    ("größe", .array [.number (.int 320), .number (.int (-8)), .null]),
    ("wait", .string "\"#a\" \\ \u0001\t…")]

def component : FolderOptions where
  name := "button"
  folder := "./button"
  configPath := "./button/readme.tsx"
  language := .tsx
  component := ⟨"(p) =>\n  p.text", .declaration, ⟨"./button/readme.tsx", 3, 14⟩⟩
  props := [⟨0, "\x7b text: 'Save' \x7d", some "save", ⟨none, some "", some screenshot⟩⟩]
  metadata := ⟨none, some "What is\r\n\"clicked\".", none, some (.bool false)⟩

def results : Results where
  root := "."
  global := some ⟨some "Überblick", none, some screenshot⟩
  components := [component]
  errors := [⟨"./card", "cannot find \x60./card/readme.js\x60", .critical⟩]
  summary := ⟨2, 1, 1, 1, 1234567⟩
  generatedAt := ⟨1709164800, 250000000⟩

theorem screenshot_kept : screenshot.Kept where
  sorted := by
    have hsizes : ∀ v ∈ [Json.number (.int 320), .number (.int (-8)), .null], v.Sorted := by
      simp only [List.forall_mem_cons, List.not_mem_nil, false_imp_iff, implies_true, and_true]
      exact ⟨.number _, .number _, .null⟩
    refine .object (by decide +kernel) ?_
    simp only [List.forall_mem_cons, List.not_mem_nil, false_imp_iff, implies_true, and_true]
    exact ⟨.number _, .array hsizes, .string _⟩
  legible := by
    have hsizes : ∀ v ∈ [Json.number (.int 320), .number (.int (-8)), .null], v.Legible := by
      simp only [List.forall_mem_cons, List.not_mem_nil, false_imp_iff, implies_true, and_true]
      exact ⟨.number (by decide +kernel), .number (by decide +kernel), .null⟩
    refine .object ?_
    simp only [List.forall_mem_cons, List.not_mem_nil, false_imp_iff, implies_true, and_true]
    exact ⟨.number (by decide +kernel), .array hsizes, .string _⟩
  ne_null := nofun

theorem component_kept : component.Kept where
  line := by decide
  column := by decide
  entries := by
    intro entry hentry
    obtain rfl := List.mem_singleton.mp hentry
    refine ⟨Nat.zero_le _, ?_⟩
    rintro v ⟨⟩
    exact screenshot_kept
  screenshot := by
    rintro v ⟨⟩
    exact ⟨.bool false, .bool false, nofun⟩

theorem results_kept : results.Kept where
  screenshot := by
    rintro options ⟨⟩ v ⟨⟩
    exact screenshot_kept
  components := by
    intro other hother
    obtain rfl := List.mem_singleton.mp hother
    exact component_kept
  summary := ⟨by decide, by decide, by decide, by decide, by decide⟩
  generatedAt := by decide +kernel

/-- The results of a directory with a name that is no text. -/
def unnamed : Results := { results with root := Path.ofBytes [0x62, 0xFF] }

end Saved

open Saved in
theorem Results.ofText?_json_button :
    results.Kept ∧ results.HasTextPaths ∧
      ∃ v text, data results = .ok v ∧ v.nesting ≤ Json.depthLimit ∧ json results = .ok text ∧
        ofText? Json.depthLimit text = some (results.setDuration 1000000) := by
  have hpaths : results.HasTextPaths := by decide +kernel
  obtain ⟨v, text, hdata, hjson, hread⟩ := (Results.ofText?_json results_kept).1 hpaths
  have hnesting : (data results).toOption.all fun v => v.nesting ≤ Json.depthLimit := by
    decide +kernel
  rw [hdata] at hnesting
  have hlimit : v.nesting ≤ Json.depthLimit := by simpa [Except.toOption] using hnesting
  exact ⟨results_kept, hpaths, v, text, hdata, hlimit, hjson, hread _ hlimit⟩

open Saved in
theorem Results.exists_not_written :
    ¬ ∀ results : Results, results.Kept → ∃ v text, data results = .ok v ∧
      json results = .ok text ∧ ∀ limit, v.nesting ≤ limit → ofText? limit text =
        some (results.setDuration
          (milliseconds results.summary.duration * nanosecondsPerMillisecond)) := by
  have hkept : unnamed.Kept :=
    ⟨results_kept.screenshot, results_kept.components, results_kept.summary,
      results_kept.generatedAt⟩
  have hroot : ¬ Path.IsText unnamed.root := by decide +kernel
  have hdata : data unnamed = .error _ :=
    (Results.writtenIf_data unnamed).2 fun hpaths => hroot hpaths.1
  intro hall
  obtain ⟨v, text, hv, -⟩ := hall unnamed hkept
  rw [hdata] at hv
  cases hv

end Showcase
