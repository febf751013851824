import Showcase.Proofs.Command.Execution
import Showcase.Proofs.Disk.Parents
import Showcase.Proofs.Disk.Writing
import Showcase.Proofs.Settings.Layering

namespace Showcase

/-!
# Output paths

Settings are accepted when something exists one level above the output file.  Whether the file can
be written is another matter, which is decided only when everything has been collected.
-/

/-! ## Paths that can be written to -/

theorem Node.exists_directory_at?_dropLast {node : Node} {place : List String}
    {entries : List (String × Node)} (h : node.at? place = some (directory entries)) :
    ∃ above, node.at? place.dropLast = some (directory above) := by
  rcases List.eq_nil_or_concat place with rfl | ⟨front, name, rfl⟩
  · exact ⟨entries, h⟩
  · rw [List.concat_eq_append, at?_append_singleton] at h
    rw [List.concat_eq_append, List.dropLast_concat]
    obtain ⟨parent, hparent, hchild⟩ := Option.bind_eq_some_iff.mp h
    cases parent with
    | directory above => exact ⟨above, hparent⟩
    | _ => cases hchild

/-- Whether a text can be written to where a path leads. -/
def Goal.TakesText : Goal → Prop
  | .node _ (.file content) => content.isSealed = false
  | .vacant _ false => True
  | _ => False

namespace Disk

variable {disk : Disk} {path name : String} {front place : List String}
  {entries : List (String × Node)}

/-- Whether a path may be written to over what stands under its last name, which may be a file that
can be replaced.  A link is written through. -/
def TakesEntry (disk : Disk) (path : String) : Option Node → Prop
  | none => True
  | some (.file content) => content.isSealed = false
  | some (.link _) => ∃ out, disk.Opens path out
  | some (.directory _) | some .closed => False

/-- Why a text can be written to a path: the path ends in a name, in a directory that is at `place`
and takes a file under that name. -/
structure Admits (disk : Disk) (path name : String) (place : List String)
    (entries : List (String × Node)) : Prop where
  last : (Path.segments path).getLast? = some name
  isName : Path.IsName name
  short : Path.size name ≤ longestName
  above : disk.find (Path.directory path) = .ok (place, .directory entries)
  entry : disk.TakesEntry path (entries.lookup name)

theorem Admits.exists_opens (h : disk.Admits path name place entries) :
    ∃ out, disk.Opens path out := by
  obtain ⟨front, hsegments⟩ := List.getLast?_eq_some_iff.mp h.last
  have hpath : path ≠ "" := Path.ne_empty_of_segments h.isName hsegments
  have hplace : disk.root.at? place = some (.directory entries) := at?_of_find h.above
  obtain ⟨left, -, hgoal⟩ :=
    goal_of_segments hpath hsegments ((find_directory_iff h.isName hsegments).mp h.above)
  have hstep := hgoal true
  rw [reach_name hplace h.isName, if_neg (Nat.not_lt.mpr h.short)] at hstep
  have hentry := h.entry
  cases hlookup : entries.lookup name with
  | none =>
      rw [hlookup] at hstep
      exact ⟨place ++ [name], .free hstep⟩
  | some child =>
      rw [hlookup] at hstep hentry
      cases child with
      | file content =>
          rw [enter_entry hplace hlookup nofun] at hstep
          exact ⟨place ++ [name], .file content hentry hstep⟩
      | link target => exact hentry
      | directory | closed => exact hentry.elim

theorem Opens.exists_goal {out : List String} (h : disk.Opens path out) :
    ∃ goal, disk.goal true path = .ok goal ∧ goal.TakesText := by
  rcases h with ⟨content, hopen, hgoal⟩ | hgoal
  · exact ⟨_, hgoal, hopen⟩
  · exact ⟨_, hgoal, trivial⟩

section Last

variable {last : String} {links : Nat} {goal : Goal}
  (hplace : disk.root.at? place = some (.directory entries))
  (hgoal : disk.reach true links place [last] = .ok goal) (htakes : goal.TakesText)

include hplace hgoal htakes

theorem isName_of_reach (hslash : '/' ∉ last.toList) : Path.IsName last := by
  have hidle : Path.isIdle last = false := by
    rw [← Bool.not_eq_true]
    intro hidle
    rw [reach_idle hplace hidle] at hgoal
    cases hgoal
    exact htakes
  refine ⟨?_, ?_, ?_, hslash⟩
  · rintro rfl
    cases hidle
  · rintro rfl
    cases hidle
  · rintro rfl
    obtain ⟨above, hdirectory⟩ := Node.exists_directory_at?_dropLast hplace
    rw [reach_eq_along, along_directory hplace, hidle, if_neg Bool.false_ne_true, if_pos rfl,
      along, hdirectory] at hgoal
    cases hgoal
    exact htakes

theorem takesEntry_of_reach (hname : Path.IsName last) (hopens : ∃ out, disk.Opens path out) :
    Path.size last ≤ longestName ∧ disk.TakesEntry path (entries.lookup last) := by
  rw [reach_name hplace hname] at hgoal
  split at hgoal
  · cases hgoal
  · rename_i hshort
    refine ⟨Nat.le_of_not_lt hshort, ?_⟩
    cases hlookup : entries.lookup last with
    | none => trivial
    | some child =>
        cases child with
        | file content =>
            rw [hlookup, enter_entry hplace hlookup nofun] at hgoal
            cases hgoal
            exact htakes
        | link target => exact hopens
        | directory | closed =>
            rw [hlookup, enter_entry hplace hlookup nofun] at hgoal
            cases hgoal
            exact htakes

end Last

theorem Opens.exists_admits {out : List String} (h : disk.Opens path out) :
    ∃ name place entries, disk.Admits path name place entries := by
  obtain ⟨goal, hgoal, htakes⟩ := h.exists_goal
  have hpath : path ≠ "" := by
    rintro rfl
    cases hgoal
  obtain ⟨front, last, hsegments⟩ : ∃ front last, Path.segments path = front ++ [last] := by
    obtain ⟨front, last, hsegments⟩ :=
      (List.eq_nil_or_concat (Path.segments path)).resolve_left (Path.segments_ne_nil path)
    exact ⟨front, last, hsegments.trans List.concat_eq_append⟩
  have hreach : disk.reach true linkLimit (disk.origin path) (front ++ [last]) = .ok goal := by
    rw [← hgoal, Disk.goal, if_neg hpath, hsegments]
    rfl
  rcases reach_append_singleton hreach with ⟨place, entries, habove⟩ | ⟨free, rfl⟩
  · have hplace : disk.root.at? place = some (.directory entries) := reach_placed _ _ _ _ _ habove
    obtain ⟨left, -, hlast⟩ := goal_of_segments hpath hsegments habove
    rw [hlast true] at hgoal
    have hname : Path.IsName last := by
      apply isName_of_reach hplace hgoal htakes
      apply Path.slash_notMem_of_mem_segments
      rw [hsegments]
      exact List.mem_append_right front List.mem_cons_self
    obtain ⟨hshort, hentry⟩ := takesEntry_of_reach hplace hgoal htakes hname ⟨out, h⟩
    refine ⟨last, place, entries, ?_, hname, hshort, ?_, hentry⟩
    · rw [hsegments, List.getLast?_concat]
    · exact (find_directory_iff hname hsegments).mpr habove
  · exact htakes.elim

theorem exists_writeText_iff (text : String) :
    (∃ after, disk.writeText path text = .ok after) ↔
      ∃ name place entries, disk.Admits path name place entries := by
  constructor
  · rintro ⟨after, hwrite⟩
    obtain ⟨out, hopens, -⟩ := writeText_eq_ok_iff.mp hwrite
    exact hopens.exists_admits
  · rintro ⟨name, place, entries, hadmits⟩
    obtain ⟨out, hopens⟩ := hadmits.exists_opens
    exact ⟨_, writeText_eq_ok_iff.mpr ⟨out, hopens, rfl⟩⟩

end Disk

/-! ## Paths that are accepted -/

namespace Settings

variable {disk : Disk} {settings : Settings} {path : String}

theorem validateOutputPath_eq_ok_iff :
    validateOutputPath disk path = .ok () ↔
      Path.parent? path = none ∨ Path.parent? path = some "" ∨
        disk.exists? (Path.directory path) = true := by
  unfold validateOutputPath Path.directory
  cases Path.parent? path with
  | none => simp
  | some parent =>
      by_cases hparent : parent = ""
      · simp [hparent]
      · by_cases hexists : disk.exists? parent = true <;> simp [hparent, hexists]

/-- What is looked at in settings apart from their output file. -/
def validateInput (disk : Disk) (settings : Settings) : Except Fault Unit := do
  if !disk.isDirectory settings.scanPath then throw (.invalidPath settings.scanPath)
  validatePatterns settings.excludePatterns
  validateConfigName settings.configName

def validateOutput (disk : Disk) (settings : Settings) : Except Fault Unit :=
  match settings.outputFile with
  | some path => validateOutputPath disk path
  | none => .ok ()

theorem validate_eq (disk : Disk) (settings : Settings) :
    settings.validate disk =
      validateInput disk settings >>= fun _ => validateOutput disk settings := by
  unfold validate validateInput
  cases disk.isDirectory settings.scanPath with
  | false => rfl
  | true =>
      cases validatePatterns settings.excludePatterns with
      | error fault => rfl
      | ok => cases validateConfigName settings.configName <;> rfl

theorem validateOutputPath_of_validate (hvalid : settings.validate disk = .ok ())
    (hfile : settings.outputFile = some path) : validateOutputPath disk path = .ok () := by
  rw [validate_eq] at hvalid
  obtain ⟨_, -, houtput⟩ := exists_of_bind_eq_ok hvalid
  rwa [validateOutput, hfile] at houtput

end Settings

namespace Command

theorem Resolves.validate {machine : Machine} {arguments : Arguments} {settings : Settings}
    (h : Resolves machine arguments settings) : settings.validate machine.disk = .ok () := by
  have hloaded := h.loaded
  rw [Settings.outcome_load] at hloaded
  obtain ⟨file, -, hbuild⟩ := exists_of_bind_eq_ok hloaded
  unfold PartialSettings.build at hbuild
  split at hbuild
  · rename_i hvalid
    obtain rfl := Except.ok.inj hbuild
    exact hvalid
  · cases hbuild

section Outputs

variable {machine : Machine} {arguments : Arguments} {settings : Settings} {path : String}
  {results : Results} {content : String} (hresolves : Resolves machine arguments settings)
  (hfile : settings.outputFile = some path)
  (hrun : (Collector.runWith settings machine.disk machine.clock machine.parallel).outcome =
    .ok results)
  (hformat : results.format settings.outputFormat (style settings) = .ok content)

include hfile hrun hformat in
theorem written_of_formatted :
    written Walker.folders machine settings =
      match machine.disk.writeText path content with
      | .ok after => .ok (after, "")
      | .error fault => .error (.outputWrite path fault.message) := by
  rw [written, collected_folders, hrun, hfile]
  exact congrArg (· >>= write machine (some path)) hformat

include hresolves hfile hrun hformat

theorem outcome_of_admits
    (h : ∃ name place entries, machine.disk.Admits path name place entries) :
    (execute (.generate arguments) machine).outcome = .ok () := by
  obtain ⟨after, hwrite⟩ := (Disk.exists_writeText_iff _).mpr h
  have hwritten := written_of_formatted hfile hrun hformat
  rw [hwrite] at hwritten
  exact (hresolves.completed hwritten).1

theorem outcome_of_not_admits
    (h : ¬ ∃ name place entries, machine.disk.Admits path name place entries) :
    ∃ cause, (execute (.generate arguments) machine).outcome =
      .error (.outputWrite path cause) := by
  have hwritten := written_of_formatted hfile hrun hformat
  cases hwrite : machine.disk.writeText path content with
  | ok after => exact absurd ((Disk.exists_writeText_iff _).mp ⟨after, hwrite⟩) h
  | error fault =>
      rw [hwrite] at hwritten
      exact ⟨fault.message, (hresolves.aborted hwritten).1⟩

end Outputs

/-- Accepted settings have an output path with nothing above its last component, or with something
there.  A text can be written to it exactly if that is a directory that takes a file under the last
name of the path, and with anything else a run fails once it has collected its results and put them
into their format.  As everywhere, paths are those that a system takes. -/
theorem accepted_output_written (disk : Disk) (settings : Settings) (path : String)
    (hvalid : settings.validate disk = .ok ()) (hfile : settings.outputFile = some path) :
    (Path.parent? path = none ∨ Path.parent? path = some "" ∨
      disk.exists? (Path.directory path) = true) ∧
    (∀ text, (∃ after, disk.writeText path text = .ok after) ↔
      ∃ name place entries, disk.Admits path name place entries) ∧
    ∀ (machine : Machine) (arguments : Arguments) (results : Results) (content : String),
      machine.disk = disk → Resolves machine arguments settings →
      (Collector.runWith settings disk machine.clock machine.parallel).outcome = .ok results →
      results.format settings.outputFormat (style settings) = .ok content →
        ((∃ name place entries, disk.Admits path name place entries) →
          (execute (.generate arguments) machine).outcome = .ok ()) ∧
        ((¬ ∃ name place entries, disk.Admits path name place entries) →
          ∃ cause, (execute (.generate arguments) machine).outcome =
            .error (.outputWrite path cause)) := by
  refine ⟨?_, Disk.exists_writeText_iff, ?_⟩
  · exact Settings.validateOutputPath_eq_ok_iff.mp
      (Settings.validateOutputPath_of_validate hvalid hfile)
  · rintro machine arguments results content rfl hresolves hrun hformat
    exact ⟨outcome_of_admits hresolves hfile hrun hformat,
      outcome_of_not_admits hresolves hfile hrun hformat⟩

namespace Noted

/-- Notes, and an empty directory. -/
def machine : Machine where
  disk := ⟨.directory [("notes.txt", .file (.text "Notes\n")), ("out", .directory [])], []⟩
  environment := []
  clock := ⟨.epoch, 0⟩
  parallel := Schedule.inOrder

def arguments (path : String) : Arguments := { Arguments.empty with outputFile := some path }

def settings (path : String) : Settings := { Settings.default with outputFile := some path }

theorem resolves_inside_and_behind_file :
    Resolves machine (arguments "out/report.txt") (settings "out/report.txt") ∧
      Resolves machine (arguments "notes.txt/report.txt") (settings "notes.txt/report.txt") := by
  constructor <;> apply resolves_of_toOption <;> decide +kernel

theorem find_out : machine.disk.find "out" = .ok (["out"], .directory []) := by
  have hcurrent : machine.disk.root.at? machine.disk.current = some (.directory
      [("notes.txt", .file (.text "Notes\n")), ("out", .directory [])]) := rfl
  rw [Disk.find_eq_ok_iff, Disk.goal_name hcurrent (by decide) (by decide)]
  exact Disk.enter_entry hcurrent rfl nofun

theorem parent?_inside : Path.parent? "out/report.txt" = some "out" ∧
    (Path.segments "out/report.txt").getLast? = some "report.txt" := by
  decide +kernel

theorem directory_inside : Path.directory "out/report.txt" = "out" := by
  rw [Path.directory, parent?_inside.1]
  rfl

theorem admits_inside : machine.disk.Admits "out/report.txt" "report.txt" ["out"] [] where
  last := parent?_inside.2
  isName := by decide
  short := by decide +kernel
  above := by
    rw [directory_inside]
    exact find_out
  entry := trivial

theorem not_admits_behind_file :
    ¬ ∃ name place entries, machine.disk.Admits "notes.txt/report.txt" name place entries := by
  rw [← Disk.exists_writeText_iff ""]
  rintro ⟨after, hwrite⟩
  have hok : (machine.disk.writeText "notes.txt/report.txt" "").isOk = false := by decide +kernel
  rw [hwrite] at hok
  cases hok

theorem exists_formatted {path : String}
    (hvalid : (settings path).validate machine.disk = .ok ()) :
    ∃ results content, (Collector.runWith (settings path) machine.disk machine.clock
        machine.parallel).outcome = .ok results ∧
      results.format (settings path).outputFormat (style (settings path)) = .ok content := by
  obtain ⟨hdirectory, globs, hcollector⟩ := Collector.exists_ofSettings_of_validate hvalid
  let walker : Walker := ⟨".", globs, false⟩
  obtain ⟨folders, unreadable, hfolders⟩ : ∃ folders unreadable,
      walker.folders machine.disk = .ok (folders, unreadable) :=
    Walker.exists_folders_of_isDirectory hdirectory
  rw [Collector.runWith, hcollector]
  exact ⟨_, _, Collector.collect_outcome_of_tolerant rfl hfolders machine.clock machine.parallel,
    rfl⟩

end Noted

open Noted in
theorem accepted_output_written_inside :
    (settings "out/report.txt").validate machine.disk = .ok () ∧
      machine.disk.exists? "out" = true ∧
      (∀ text, ∃ after, machine.disk.writeText "out/report.txt" text = .ok after) ∧
      (execute (.generate (arguments "out/report.txt")) machine).outcome = .ok () := by
  obtain ⟨hresolves, -⟩ := resolves_inside_and_behind_file
  have hvalid := hresolves.validate
  obtain ⟨results, content, hrun, hformat⟩ := exists_formatted hvalid
  obtain ⟨hparent, hwrite, hrun'⟩ := accepted_output_written _ _ _ hvalid rfl
  have hadmits : ∃ name place entries, machine.disk.Admits "out/report.txt" name place entries :=
    ⟨_, _, _, admits_inside⟩
  obtain ⟨habove, -⟩ := parent?_inside
  rw [habove, directory_inside] at hparent
  refine ⟨hvalid, ?_, ?_, ?_⟩
  · rcases hparent with hparent | hparent | hparent
    · cases hparent
    · exact absurd (Option.some.inj hparent) (by decide)
    · exact hparent
  · intro text
    exact (hwrite text).mpr hadmits
  · exact (hrun' machine _ _ _ rfl hresolves hrun hformat).1 hadmits

open Noted in
/-- A path through a file is accepted, and the run with it fails in the end. -/
theorem exists_accepted_unwritable :
    (settings "notes.txt/report.txt").validate machine.disk = .ok () ∧
      (∀ text, ¬ ∃ after, machine.disk.writeText "notes.txt/report.txt" text = .ok after) ∧
      (∃ cause, (execute (.generate (arguments "notes.txt/report.txt")) machine).outcome =
        .error (.outputWrite "notes.txt/report.txt" cause)) ∧
      ¬ ∀ (disk : Disk) (settings : Settings) (path text : String),
        settings.validate disk = .ok () → settings.outputFile = some path →
          ∃ after, disk.writeText path text = .ok after := by
  obtain ⟨-, hresolves⟩ := resolves_inside_and_behind_file
  have hvalid := hresolves.validate
  obtain ⟨results, content, hrun, hformat⟩ := exists_formatted hvalid
  have hwrite (text : String) :
      ¬ ∃ after, machine.disk.writeText "notes.txt/report.txt" text = .ok after := by
    rw [Disk.exists_writeText_iff]
    exact not_admits_behind_file
  refine ⟨hvalid, hwrite, ?_, ?_⟩
  · exact outcome_of_not_admits hresolves rfl hrun hformat not_admits_behind_file
  · intro h
    exact hwrite "" (h _ _ _ "" hvalid rfl)

end Command

end Showcase
