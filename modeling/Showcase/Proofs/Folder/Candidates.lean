import Mathlib.Data.List.Nodup
import Showcase.Folder.Candidates
import Showcase.Proofs.Collection.Isolation
import Showcase.Proofs.Disk.Continuation
import Showcase.Settings.Validation

namespace Showcase

/-!
# Which description is read

The candidates of a folder stand directly in it, under the configured name with the extension of
their language, whatever that name is as long as it is accepted.  Of the candidates the first that
is a file decides: its text is read, and a file that is no text or may not be read is a failure and
not passed over.
-/

/-! ## Extensions -/

theorem Path.extension?_of_fileName? {path stem extension : String}
    (h : fileName? path = some (stem ++ "." ++ extension)) (hstem : stem ≠ "")
    (hextension : '.' ∉ extension.toList) : extension? path = some extension := by
  have hchars : (stem ++ "." ++ extension).toList.reverse =
      extension.toList.reverse ++ '.' :: stem.toList.reverse := by simp
  have hbefore : ∀ c ∈ extension.toList.reverse, (decide (c ≠ '.')) = true := by
    intro c hc
    rw [List.mem_reverse] at hc
    simp only [decide_eq_true_eq]
    rintro rfl
    exact hextension hc
  have hne : stem.toList.reverse ≠ [] := by simpa using hstem
  obtain ⟨c, cs, hcs⟩ := List.exists_cons_of_ne_nil hne
  rw [extension?, h, Option.bind_some]
  dsimp only
  rw [hchars, List.takeWhile_append_of_pos hbefore, List.dropWhile_append_of_pos hbefore, hcs]
  simp

namespace Settings

theorem trimmed_empty : Text.trimmed "" = "" := by decide +kernel

/-- What an accepted name is like. -/
structure IsConfigName (name : String) : Prop where
  ne_empty : name ≠ ""
  slash_notMem : '/' ∉ name.toList
  backslash_notMem : '\\' ∉ name.toList
  extension (extension : String) (h : Path.extension? name = some extension) :
    Language.ofExtension? extension = none

theorem isConfigName_of_validate {name : String} (h : validateConfigName name = .ok ()) :
    IsConfigName name := by
  unfold validateConfigName at h
  split at h
  · cases h
  rename_i htrimmed
  split at h
  · cases h
  rename_i hslashes
  simp only [List.any_eq_true, Bool.or_eq_true, decide_eq_true_eq, not_exists, not_and,
    not_or] at hslashes
  refine ⟨?_, ?_, ?_, ?_⟩
  · rintro rfl
    exact htrimmed trimmed_empty
  · intro hslash
    exact (hslashes _ hslash).1 rfl
  · intro hslash
    exact (hslashes _ hslash).2 rfl
  · intro extension hextension
    rw [hextension] at h
    dsimp only at h
    split at h
    · cases h
    · simp_all

end Settings

/-! ## Candidates -/

namespace Language

theorem extension_injective {language other : Language}
    (h : language.extension = other.extension) : language = other := by
  cases language <;> cases other <;> first | rfl | exact absurd h (by decide)

theorem point_notMem_extension (language : Language) : '.' ∉ language.extension.toList := by
  cases language <;> decide

theorem path_injective (base : String) {language other : Language}
    (h : language.path base = other.path base) : language = other := by
  apply extension_injective
  have hchars := congrArg String.toList h
  simp only [path, String.toList_append] at hchars
  exact String.toList_inj.mp (List.append_cancel_left hchars)

theorem candidatePaths_nodup (base : String) (untypedOnly : Bool) :
    ((candidatePaths base untypedOnly).map Prod.snd).Nodup := by
  rw [candidatePaths, List.map_map]
  have hcandidates : (candidates untypedOnly).Nodup := by cases untypedOnly <;> decide
  apply List.Nodup.map _ hcandidates
  intro language other h
  exact path_injective base h

end Language

namespace Disk

variable {disk : Disk} {candidates : List (Language × String)}

/-- The first of the candidates that is a file, and what it holds. -/
structure FirstFile (disk : Disk) (candidates : List (Language × String)) (language : Language)
    (path : String) (content : Content) : Prop where
  first : ∃ before after, candidates = before ++ (language, path) :: after ∧
    ∀ candidate ∈ before, disk.isFile candidate.2 = false
  node : disk.node? path = some (.file content)

/-- What comes of reading a file as a description. -/
def readSource (language : Language) (path : String) : Content → Except Fault (Option Source)
  | .text code => .ok (some { path, language, code })
  | .binary _ => .error (.sourceRead path DiskFault.notText.message)
  | .sealed _ => .error (.sourceRead path DiskFault.permissionDenied.message)

/-- Why no text can be read from a file. -/
inductive Withholds : Content → DiskFault → Prop
  | binary (bytes : List UInt8) : Withholds (.binary bytes) .notText
  | sealed (bytes : List UInt8) : Withholds (.sealed bytes) .permissionDenied

theorem isFile_iff {path : String} :
    disk.isFile path = true ↔ ∃ content, disk.node? path = some (.file content) := by
  unfold isFile
  cases disk.node? path with
  | none => simp
  | some node => cases node <;> simp [Node.isFile]

theorem readText_of_node? {path : String} {content : Content}
    (h : disk.node? path = some (.file content)) :
    disk.readText path = match content with
      | .text code => .ok code
      | .binary _ => .error .notText
      | .sealed _ => .error .permissionDenied := by
  unfold node? at h
  unfold readText
  split at h
  · rename_i place node hfind
    obtain rfl := Option.some.inj h
    rw [hfind]
    cases content <;> rfl
  · cases h

theorem node?_of_readText {path code : String} (h : disk.readText path = .ok code) :
    disk.node? path = some (.file (.text code)) := by
  unfold readText at h
  unfold node?
  split at h <;> cases h
  rename_i place hfind
  rw [hfind]

theorem firstSource_cons_of_file {language : Language} {path : String} {content : Content}
    (h : disk.node? path = some (.file content)) (rest : List (Language × String)) :
    disk.firstSource ((language, path) :: rest) = readSource language path content := by
  rw [firstSource, if_pos (isFile_iff.mpr ⟨content, h⟩), readText_of_node? h]
  cases content <;> rfl

theorem firstSource_append {before : List (Language × String)}
    (h : ∀ candidate ∈ before, disk.isFile candidate.2 = false) (rest : List (Language × String)) :
    disk.firstSource (before ++ rest) = disk.firstSource rest := by
  induction before with
  | nil => rfl
  | cons candidate before ih =>
      obtain ⟨language, path⟩ := candidate
      have hpath : disk.isFile path = false := h _ List.mem_cons_self
      rw [List.cons_append, firstSource, hpath, if_neg Bool.false_ne_true]
      apply ih
      intro candidate hcandidate
      exact h candidate (List.mem_cons_of_mem _ hcandidate)

theorem firstSource_of_none (h : ∀ candidate ∈ candidates, disk.isFile candidate.2 = false) :
    disk.firstSource candidates = .ok none := by
  have hnone := firstSource_append h []
  rwa [List.append_nil] at hnone

theorem FirstFile.firstSource_eq {language : Language} {path : String} {content : Content}
    (h : disk.FirstFile candidates language path content) :
    disk.firstSource candidates = readSource language path content := by
  obtain ⟨before, after, rfl, hbefore⟩ := h.first
  rw [firstSource_append hbefore, firstSource_cons_of_file h.node]

theorem none_or_exists_firstFile (disk : Disk) (candidates : List (Language × String)) :
    (∀ candidate ∈ candidates, disk.isFile candidate.2 = false) ∨
      ∃ language path content, disk.FirstFile candidates language path content := by
  induction candidates with
  | nil => exact .inl nofun
  | cons candidate rest ih =>
      obtain ⟨language, path⟩ := candidate
      cases hfile : disk.isFile path with
      | true =>
          obtain ⟨content, hnode⟩ := isFile_iff.mp hfile
          exact .inr ⟨language, path, content, ⟨[], rest, rfl, nofun⟩, hnode⟩
      | false =>
          rcases ih with hnone | ⟨other, otherPath, content, ⟨before, after, hrest, hbefore⟩, hnode⟩
          · refine .inl ?_
            rintro candidate (_ | ⟨_, hcandidate⟩)
            · exact hfile
            · exact hnone candidate hcandidate
          · refine .inr ⟨other, otherPath, content, ⟨(language, path) :: before, after, ?_, ?_⟩,
              hnode⟩
            · rw [hrest, List.cons_append]
            · rintro candidate (_ | ⟨_, hcandidate⟩)
              · exact hfile
              · exact hbefore candidate hcandidate

theorem firstSource_eq_none_iff :
    disk.firstSource candidates = .ok none ↔
      ∀ candidate ∈ candidates, disk.isFile candidate.2 = false := by
  constructor
  · intro h
    rcases none_or_exists_firstFile disk candidates with hnone | ⟨language, path, content, hfirst⟩
    · exact hnone
    · rw [hfirst.firstSource_eq] at h
      cases content <;> cases h
  · exact firstSource_of_none

theorem firstSource_eq_some_iff {source : Source} :
    disk.firstSource candidates = .ok (some source) ↔
      disk.FirstFile candidates source.language source.path (.text source.code) := by
  constructor
  · intro h
    rcases none_or_exists_firstFile disk candidates with hnone | ⟨language, path, content, hfirst⟩
    · rw [firstSource_of_none hnone] at h
      cases h
    · rw [hfirst.firstSource_eq] at h
      cases content with
      | text code =>
          obtain rfl := Option.some.inj (Except.ok.inj h)
          exact hfirst
      | binary | «sealed» => cases h
  · intro hfirst
    exact hfirst.firstSource_eq

theorem firstSource_eq_error_iff {fault : Fault} :
    disk.firstSource candidates = .error fault ↔
      ∃ language path content cause, disk.FirstFile candidates language path content ∧
        Withholds content cause ∧ fault = .sourceRead path cause.message := by
  constructor
  · intro h
    rcases none_or_exists_firstFile disk candidates with hnone | ⟨language, path, content, hfirst⟩
    · rw [firstSource_of_none hnone] at h
      cases h
    · rw [hfirst.firstSource_eq] at h
      cases content with
      | text code => cases h
      | binary bytes =>
          exact ⟨language, path, _, _, hfirst, .binary bytes, (Except.error.inj h).symm⟩
      | «sealed» bytes =>
          exact ⟨language, path, _, _, hfirst, .sealed bytes, (Except.error.inj h).symm⟩
  · rintro ⟨language, path, content, cause, hfirst, hwithholds, rfl⟩
    rw [hfirst.firstSource_eq]
    cases hwithholds <;> rfl

end Disk

/-- The candidates of a folder are told apart by their extension alone and stand directly in the
folder: each leads to what the folder has under its name.  Reading finds the first that is a file
and gives its text with the language of its extension, gives nothing just when none is a file, so
that all of them are named when one is required, and fails with the first that is a file if that is
no text or may not be read. -/
theorem Language.first_candidate_decides {name : String}
    (hname : Settings.validateConfigName name = .ok ()) (folder : String) (untypedOnly : Bool) :
    let candidates := candidatePaths (Path.join folder name) untypedOnly
    candidates = (if untypedOnly then [js] else [ts, tsx, js]).map (fun language =>
      (language, Path.join folder (name ++ "." ++ language.extension))) ∧
    (candidates.map Prod.snd).Nodup ∧
    (∀ language path, (language, path) ∈ candidates →
      Path.fileName? path = some (name ++ "." ++ language.extension) ∧
      Path.extension? path = some language.extension ∧
      ∀ (disk : Disk) place entries, disk.find folder = .ok (place, .directory entries) →
        disk.goal false path =
          Disk.childGoal place entries (name ++ "." ++ language.extension)) ∧
    ∀ disk : Disk,
      (∀ source, disk.source? (Path.join folder name) untypedOnly = .ok (some source) ↔
        disk.FirstFile candidates source.language source.path (.text source.code)) ∧
      (disk.source? (Path.join folder name) untypedOnly = .ok none ↔
        ∀ candidate ∈ candidates, disk.isFile candidate.2 = false) ∧
      (disk.source? (Path.join folder name) untypedOnly = .ok none →
        disk.source (Path.join folder name) untypedOnly =
          .error (.notFound (candidates.map Prod.snd))) ∧
      ∀ fault, disk.source? (Path.join folder name) untypedOnly = .error fault ↔
        ∃ language path content cause, disk.FirstFile candidates language path content ∧
          Disk.Withholds content cause ∧ fault = .sourceRead path cause.message := by
  intro candidates
  obtain ⟨hne, hslash, -, -⟩ := Settings.isConfigName_of_validate hname
  have hjoin (language : Language) : language.path (Path.join folder name) =
      Path.join folder (name ++ "." ++ language.extension) := path_join hslash folder language
  refine ⟨?_, candidatePaths_nodup _ _, ?_, ?_⟩
  · simp only [candidates, candidatePaths, Language.candidates, hjoin]
  · intro language path hmem
    obtain ⟨other, -, hother⟩ := List.mem_map.mp hmem
    obtain ⟨rfl, rfl⟩ := Prod.mk.inj hother
    have hfile : Path.IsName (name ++ "." ++ other.extension) := isName_path hslash other
    have hfileName := Path.fileName?_join folder hfile
    rw [hjoin]
    refine ⟨hfileName, ?_, ?_⟩
    · exact Path.extension?_of_fileName? hfileName hne (point_notMem_extension other)
    · intro disk place entries hfolder
      exact Disk.goal_child hfolder hfile
  · intro disk
    refine ⟨?_, Disk.firstSource_eq_none_iff, ?_, ?_⟩
    · intro source
      exact Disk.firstSource_eq_some_iff
    · intro hnone
      rw [Disk.source, hnone]
    · intro fault
      exact Disk.firstSource_eq_error_iff

namespace Language.Typed

def entries : List (String × Node) :=
  [("readme.js", .file (.binary [0xFF])), ("readme.tsx", .file (.text "export default {};"))]

/-- A folder with a description in two languages, of which one is no text. -/
def disk : Disk := ⟨.directory [("button", .directory entries)], []⟩

theorem find_button : disk.find "button" = .ok (["button"], .directory entries) := by
  have hcurrent : disk.root.at? disk.current = some (.directory [("button", .directory entries)]) :=
    rfl
  rw [Disk.find_eq_ok_iff, Disk.goal_name hcurrent (by decide) (by decide)]
  exact Disk.enter_entry hcurrent rfl nofun

theorem firstFile : disk.FirstFile (candidatePaths (Path.join "button" "readme") false) .tsx
    "button/readme.tsx" (.text "export default {};") where
  first := by
    refine ⟨[(.ts, "button/readme.ts")], [(.js, "button/readme.js")], by decide +kernel, ?_⟩
    intro candidate hcandidate
    obtain rfl := List.mem_singleton.mp hcandidate
    decide +kernel
  node := by
    apply Disk.node?_of_readText
    have htext : (disk.readText "button/readme.tsx").toOption = some "export default {};" := by
      decide +kernel
    cases hread : disk.readText "button/readme.tsx" with
    | ok code =>
        rw [hread] at htext
        rw [Option.some.inj htext]
    | error fault =>
        rw [hread] at htext
        cases htext

end Language.Typed

open Language.Typed in
theorem Language.first_candidate_decides_typed :
    Settings.validateConfigName "readme" = .ok () ∧
      disk.source? (Path.join "button" "readme") false =
        .ok (some ⟨"button/readme.tsx", .tsx, "export default {};"⟩) ∧
      Path.extension? "button/readme.tsx" = some "tsx" ∧
      disk.goal false "button/readme.tsx" =
        .ok (.node ["button", "readme.tsx"] (.file (.text "export default {};"))) := by
  have hname : Settings.validateConfigName "readme" = .ok () := by
    have hok : (Settings.validateConfigName "readme").isOk = true := by decide +kernel
    obtain ⟨⟨⟩, hvalid⟩ := exists_eq_ok_of_isOk hok
    exact hvalid
  obtain ⟨-, -, hchild, hreads⟩ := first_candidate_decides hname "button" false
  have hmem : (Language.tsx, "button/readme.tsx") ∈
      candidatePaths (Path.join "button" "readme") false := by decide +kernel
  obtain ⟨-, hextension, hgoal⟩ := hchild _ _ hmem
  have hshort : ¬ Disk.longestName < Path.size ("readme" ++ "." ++ Language.tsx.extension) := by
    decide +kernel
  have hlookup : entries.lookup ("readme" ++ "." ++ Language.tsx.extension) =
      some (.file (.text "export default {};")) := rfl
  have hplace := hgoal disk _ _ find_button
  rw [Disk.childGoal, if_neg hshort, hlookup] at hplace
  exact ⟨hname, ((hreads disk).1 _).mpr firstFile, hextension, hplace⟩

end Showcase
