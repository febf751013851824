import Showcase.Collection.Walk
import Showcase.Proofs.Disk.Bytes
import Showcase.Proofs.Disk.Places

namespace Showcase

/-!
# The folders that a walk lists

A walk that follows no links lists the direct subdirectories that no exclude pattern
matches, in the order of their names.  A pattern is tried on the name as it is shown and on the
path that the scanned directory and the name make up, if this is a text, so what is left out
depends on how the path of the scanned directory is written.
-/

namespace Glob

theorem nil_mem_suffixes (cs : List Char) : [] ∈ suffixes cs := by
  induction cs with
  | nil => simp [suffixes]
  | cons c cs ih => exact List.mem_cons_of_mem _ ih

/-- Characters and an asterisk match what begins with the characters. -/
theorem matchTokens_chars_many (start cs : List Char) :
    matchTokens (start.map .char ++ [.many]) cs = true ↔ start <+: cs := by
  induction start generalizing cs with
  | nil =>
      simp only [List.map_nil, List.nil_append, List.nil_prefix, iff_true]
      rw [matchTokens, List.any_eq_true]
      exact ⟨[], nil_mem_suffixes cs, by rw [matchTokens]; rfl⟩
  | cons c start ih =>
      cases cs with
      | nil => simp [matchTokens]
      | cons d cs =>
          rw [List.cons_prefix_cons, ← ih cs, @eq_comm _ c d]
          simp [matchTokens]

end Glob

namespace Walker

/-- Whether one of the patterns matches a text. -/
def anyMatch (patterns : List Glob) (text : String) : Bool :=
  patterns.any fun glob => glob.isMatch text

/-- Whether one of the patterns matches a path, which must be a text. -/
def anyMatchPath (patterns : List Glob) (path : String) : Bool :=
  (Path.text? path).any (anyMatch patterns)

/-- Whether a directory with these entries has a subdirectory of this name. -/
def IsSubdirectory (entries : List (String × Node)) (name : String) : Prop :=
  ∃ node : Node, (name, node) ∈ entries ∧ node.isDirectory = true

variable {walker : Walker} {disk : Disk} {place : List String}
  {entries : List (String × Node)}

/-! ## Entries in order -/

theorem nameLe_trans (a b c : String × Node) (hab : nameLe a b = true)
    (hbc : nameLe b c = true) : nameLe a c = true := by
  simp only [nameLe, decide_eq_true_eq] at hab hbc ⊢
  exact List.le_trans hab hbc

theorem nameLe_total (a b : String × Node) : (nameLe a b || nameLe b a) = true := by
  simp only [nameLe, Bool.or_eq_true, decide_eq_true_eq]
  exact List.le_total (Path.bytes a.1) (Path.bytes b.1)

theorem pairwise_mergeSort_nameLe (hentries : (Node.directory entries).WellFormed) :
    (entries.mergeSort nameLe).Pairwise fun a b => Path.bytes a.1 < Path.bytes b.1 := by
  have hle : (entries.mergeSort nameLe).Pairwise fun a b => nameLe a b = true :=
    List.pairwise_mergeSort nameLe_trans nameLe_total entries
  have hne : (entries.mergeSort nameLe).Pairwise fun a b => a.1 ≠ b.1 := by
    rw [← List.pairwise_map]
    exact (((List.mergeSort_perm entries nameLe).map Prod.fst).nodup_iff).mpr hentries.nodup_names
  refine (hle.and hne).imp_of_mem fun {a b} ha hb hab => ?_
  rw [List.mem_mergeSort] at ha hb
  have hab₁ : Path.bytes a.1 ≤ Path.bytes b.1 := of_decide_eq_true hab.1
  -- Names of the same bytes are the same.
  refine List.not_le.mp fun hge => hab.2 ?_
  exact (hentries.isEntryName ha).eq_of_bytes_eq (hentries.isEntryName hb)
    (List.le_antisymm hab₁ hge)

/-! ## Names that are kept -/

/-- Whether the entry is a subdirectory that no pattern matches. -/
def keeps (walker : Walker) (entry : String × Node) : Bool :=
  entry.2.isDirectory && !anyMatch walker.exclude (Path.shown entry.1) &&
    !anyMatchPath walker.exclude (Path.join walker.root entry.1)

/-- The names of the listed folders among the entries of the scanned directory. -/
def names (walker : Walker) (entries : List (String × Node)) : List String :=
  ((entries.mergeSort nameLe).filter walker.keeps).map Prod.fst

theorem names_pairwise (walker : Walker) (hentries : (Node.directory entries).WellFormed) :
    (walker.names entries).Pairwise fun a b => Path.bytes a < Path.bytes b := by
  rw [names, List.pairwise_map]
  exact (pairwise_mergeSort_nameLe hentries).filter _

theorem mem_names {name : String} :
    name ∈ walker.names entries ↔
      IsSubdirectory entries name ∧ anyMatch walker.exclude (Path.shown name) = false ∧
        anyMatchPath walker.exclude (Path.join walker.root name) = false := by
  simp only [names, keeps, List.mem_map, List.mem_filter, List.mem_mergeSort, Bool.and_eq_true,
    Bool.not_eq_true', IsSubdirectory]
  constructor
  · rintro ⟨⟨_, node⟩, ⟨hmem, ⟨hdirectory, hname⟩, hpath⟩, rfl⟩
    exact ⟨⟨node, hmem, hdirectory⟩, hname, hpath⟩
  · rintro ⟨⟨node, hmem, hdirectory⟩, hname, hpath⟩
    exact ⟨(name, node), ⟨hmem, ⟨hdirectory, hname⟩, hpath⟩, rfl⟩

theorem isExcluded_join {name : String} (h : Path.IsName name) :
    walker.isExcluded (Path.join walker.root name) =
      (anyMatch walker.exclude (Path.shown name) ||
        anyMatchPath walker.exclude (Path.join walker.root name)) := by
  rw [isExcluded, Path.fileName?_join walker.root h, anyMatchPath, Option.getD_some]
  cases Path.text? (Path.join walker.root name) with
  | none => simp [anyMatch]
  | some text =>
      simp only [Option.any_some, anyMatch]
      induction walker.exclude with
      | nil => rfl
      | cons glob globs ih =>
          simp only [List.any_cons, ih]
          cases glob.isMatch (Path.shown name) <;> cases glob.isMatch text <;> simp

/-- Without links, an entry is a folder or passed over. -/
theorem list_eq (hlinks : walker.followLinks = false) {entry : String × Node}
    (hname : Path.IsName entry.1) :
    walker.list disk place entry =
      if walker.keeps entry then .folder (Path.join walker.root entry.1) else .passed := by
  obtain ⟨name, node⟩ := entry
  have hexcluded : walker.isExcluded (Path.join walker.root name) = _ := isExcluded_join hname
  cases node with
  | directory _ | closed =>
      simp only [list, folderUnlessExcluded, hexcluded, keeps, Node.isDirectory, Bool.true_and]
      cases anyMatch walker.exclude (Path.shown name) <;>
        cases anyMatchPath walker.exclude (Path.join walker.root name) <;> simp
  | file _ | link _ => simp [list, keeps, Node.isDirectory, hlinks]

section Listed

variable {listed : List (String × Node)}
  (hlist : ∀ entry ∈ listed, walker.list disk place entry =
    if walker.keeps entry then .folder (Path.join walker.root entry.1) else .passed)

include hlist

theorem filterMap_folder? :
    (listed.map (walker.list disk place)).filterMap Listed.folder? =
      ((listed.filter walker.keeps).map Prod.fst).map (Path.join walker.root) := by
  rw [List.map_congr_left hlist]
  clear hlist
  induction listed with
  | nil => rfl
  | cons entry rest ih =>
      cases hkeeps : walker.keeps entry <;>
        simp [hkeeps, Listed.folder?, List.filterMap_cons, ih]

theorem filterMap_unreadable? :
    (listed.map (walker.list disk place)).filterMap Listed.unreadable? = [] := by
  rw [List.map_congr_left hlist, List.filterMap_eq_nil_iff]
  intro outcome houtcome
  obtain ⟨entry, -, rfl⟩ := List.mem_map.mp houtcome
  cases walker.keeps entry <;> rfl

end Listed

/-- The listed folders stand below the root under the names that are kept. -/
theorem folders_eq_names (hdisk : disk.root.WellFormed) (hlinks : walker.followLinks = false)
    (hroot : disk.find walker.root = .ok (place, .directory entries)) :
    walker.folders disk = .ok ((walker.names entries).map (Path.join walker.root), []) := by
  have hentries := Disk.wellFormed_of_find hdisk hroot
  have hlist : ∀ entry ∈ entries.mergeSort nameLe, walker.list disk place entry =
      if walker.keeps entry then .folder (Path.join walker.root entry.1) else .passed :=
    fun entry hentry => list_eq hlinks (hentries.isName (List.mem_mergeSort.mp hentry))
  unfold folders listings
  rw [hroot]
  simp only [filterMap_folder? hlist, filterMap_unreadable? hlist, names]

theorem isName_of_mem_names (hentries : (Node.directory entries).WellFormed) {name : String}
    (h : name ∈ walker.names entries) : Path.IsName name := by
  obtain ⟨⟨node, hmem, -⟩, -⟩ := mem_names.mp h
  exact hentries.isName hmem

/-- Two spellings of the root give the same names when the patterns do not tell apart the
paths that they make up with the subdirectories whose names no pattern matches. -/
theorem names_eq_names_iff (patterns : List Glob) (root other : String) :
    names ⟨root, patterns, false⟩ entries = names ⟨other, patterns, false⟩ entries ↔
      ∀ name, IsSubdirectory entries name → anyMatch patterns (Path.shown name) = false →
        anyMatchPath patterns (Path.join root name) =
          anyMatchPath patterns (Path.join other name) := by
  constructor
  · intro hnames name hsub hname
    have hmem : anyMatchPath patterns (Path.join root name) = false ↔
        anyMatchPath patterns (Path.join other name) = false := by
      have hroot : name ∈ names ⟨root, patterns, false⟩ entries ↔ _ := mem_names
      have hother : name ∈ names ⟨other, patterns, false⟩ entries ↔ _ := mem_names
      rw [hnames] at hroot
      simp only [hsub, hname, true_and] at hroot hother
      exact hroot.symm.trans hother
    rw [Bool.eq_iff_iff]
    simpa using not_congr hmem
  · intro hpaths
    refine congrArg (List.map Prod.fst) (List.filter_congr fun entry hentry => ?_)
    obtain ⟨name, node⟩ := entry
    unfold keeps
    cases hdirectory : node.isDirectory with
    | false => rfl
    | true =>
        cases hname : anyMatch patterns (Path.shown name) with
        | true => rfl
        | false =>
            have hpath := hpaths name ⟨node, List.mem_mergeSort.mp hentry, hdirectory⟩ hname
            simp [hpath]

/-! ## Hidden folders -/

/-- The pattern for hidden names. -/
def hidden : Glob := ⟨['.'].map .char ++ [.many]⟩

theorem text?_join_point {name text : String} (hname : Path.IsName name)
    (htext : Path.text? name = some text) :
    Path.text? (Path.join "." name) = some ("./" ++ text) := by
  have hjoin : Path.join "." name = "./" ++ name := by
    have hslash : ¬ ("." = "" ∨ ".".endsWith "/" = true) := by decide +kernel
    rw [Path.join, hname.isAbsolute_eq_false, if_neg Bool.false_ne_true, if_neg hslash]
    rfl
  have hpoint : Path.ofText "./" = "./" := by decide +kernel
  rw [Path.text?_eq_some_iff] at htext ⊢
  rw [hjoin, htext, Path.ofText_append, hpoint]

theorem names_point {walker : Walker} {entries : List (String × Node)}
    (hentries : (Node.directory entries).WellFormed) (hroot : walker.root = ".")
    (hhidden : hidden ∈ walker.exclude) {name : String} (hname : name ∈ walker.names entries) :
    Path.text? name = none := by
  have hpath : anyMatchPath walker.exclude (Path.join walker.root name) = false :=
    (mem_names.mp hname).2.2
  cases htext : Path.text? name with
  | none => rfl
  | some text =>
      have hpoint : ['.'] <+: ("./" ++ text).toList := by simp
      have hmatch : anyMatch walker.exclude ("./" ++ text) = true :=
        List.any_eq_true.mpr ⟨_, hhidden, (Glob.matchTokens_chars_many _ _).mpr hpoint⟩
      rw [hroot, anyMatchPath, text?_join_point (isName_of_mem_names hentries hname) htext,
        Option.any_some, hmatch] at hpath
      cases hpath

/-- With the default settings no folder is listed whose name is a text: below the point that
stands for the current directory, the path of every such folder begins like a hidden name. -/
theorem folders_default {walker : Walker} {disk : Disk} {place : List String}
    {entries : List (String × Node)} (hwalker : ofSettings Settings.default = .ok walker)
    (hdisk : disk.root.WellFormed)
    (hroot : disk.find walker.root = .ok (place, .directory entries)) :
    ∃ names : List String,
      walker.folders disk = .ok (names.map (Path.join "."), []) ∧
      ∀ name ∈ names, Path.text? name = none := by
  have hsettings : ofSettings Settings.default = .ok ⟨".",
      [⟨"node_modules".toList.map .char⟩, hidden,
        ⟨['_', '_'].map .char ++ [.many]⟩], false⟩ := rfl
  obtain rfl := Except.ok.inj (hsettings.symm.trans hwalker)
  have hentries := Disk.wellFormed_of_find hdisk hroot
  exact ⟨names _ entries, folders_eq_names hdisk rfl hroot,
    fun name hname => names_point hentries rfl (by simp) hname⟩

/-! ## The unmatched folders -/

/-- The listed folders are the subdirectories that no pattern matches, by name or by path.
They are those that no pattern matches by name just in case the patterns match no path of a
subdirectory whose name they do not match; and another spelling of the root gives the same
names just in case the patterns match the same paths of such subdirectories. -/
theorem folders_eq_unmatched (hdisk : disk.root.WellFormed) {root : String}
    (hroot : disk.find root = .ok (place, .directory entries)) (patterns : List Glob) :
    ∃ names : List String,
      folders ⟨root, patterns, false⟩ disk = .ok (names.map (Path.join root), []) ∧
      (names.Pairwise fun a b => Path.bytes a < Path.bytes b) ∧
      (∀ name, name ∈ names ↔
        IsSubdirectory entries name ∧ anyMatch patterns (Path.shown name) = false ∧
          anyMatchPath patterns (Path.join root name) = false) ∧
      ((∀ name, name ∈ names ↔
          IsSubdirectory entries name ∧ anyMatch patterns (Path.shown name) = false) ↔
        ∀ name, IsSubdirectory entries name → anyMatch patterns (Path.shown name) = false →
          anyMatchPath patterns (Path.join root name) = false) ∧
      ∀ other, disk.find other = .ok (place, .directory entries) →
        (folders ⟨other, patterns, false⟩ disk = .ok (names.map (Path.join other), []) ↔
          ∀ name, IsSubdirectory entries name → anyMatch patterns (Path.shown name) = false →
            anyMatchPath patterns (Path.join root name) =
              anyMatchPath patterns (Path.join other name)) := by
  have hentries := Disk.wellFormed_of_find hdisk hroot
  let walker : Walker := ⟨root, patterns, false⟩
  refine ⟨walker.names entries, folders_eq_names hdisk rfl hroot,
    walker.names_pairwise hentries, fun name => mem_names, ?_, fun other hother => ?_⟩
  · constructor
    · intro hmem name hsub hname
      exact (mem_names.mp ((hmem name).mpr ⟨hsub, hname⟩)).2.2
    · intro hpaths name
      rw [mem_names]
      constructor
      · rintro ⟨hsub, hname, -⟩
        exact ⟨hsub, hname⟩
      · rintro ⟨hsub, hname⟩
        exact ⟨hsub, hname, hpaths name hsub hname⟩
  · have hfolders : folders ⟨other, patterns, false⟩ disk =
        .ok ((names ⟨other, patterns, false⟩ entries).map (Path.join other), []) :=
      folders_eq_names hdisk rfl hother
    rw [hfolders, ← names_eq_names_iff]
    constructor
    · intro heq
      have hmaps : (names ⟨other, patterns, false⟩ entries).map (Path.join other) =
          (walker.names entries).map (Path.join other) := by simpa using heq
      have hnames := congrArg (List.filterMap Path.fileName?) hmaps
      rw [Path.filterMap_fileName?_map_join other fun name => isName_of_mem_names hentries,
        Path.filterMap_fileName?_map_join other fun name => isName_of_mem_names hentries] at hnames
      exact hnames.symm
    · intro hnames
      rw [← hnames]

/-- A disk with the folder `button` alone. -/
def oneFolder : Disk := ⟨.directory [("button", .directory [])], []⟩

theorem oneFolder_wellFormed : oneFolder.root.WellFormed := by
  have hplanted : (Node.plant (.directory []) ["button"] (.directory [])).WellFormed :=
    Node.wellFormed_empty.plant (by decide +kernel) Node.wellFormed_empty
  exact hplanted

theorem oneFolder_find (root : String) (h : root = "." ∨ root = "/") :
    oneFolder.find root = .ok ([], .directory [("button", .directory [])]) := by
  rcases h with rfl | rfl
  · have hsegments : Path.segments "." = ["."] := by decide +kernel
    have habsolute : Path.isAbsolute "." = false := by decide +kernel
    simp [Disk.find, Disk.goal, Disk.linkLimit, Disk.reach, Disk.along, Node.at?, Path.isIdle,
      oneFolder, hsegments, habsolute]
  · have hsegments : Path.segments "/" = ["", ""] := by decide +kernel
    have habsolute : Path.isAbsolute "/" = true := by decide +kernel
    simp [Disk.find, Disk.goal, Disk.linkLimit, Disk.reach, Disk.along, Node.at?, Path.isIdle,
      oneFolder, hsegments, habsolute]

theorem folders_point_oneFolder : folders ⟨".", [hidden], false⟩ oneFolder = .ok ([], []) := by
  have hfind := oneFolder_find "." (Or.inl rfl)
  have hnames : names ⟨".", [hidden], false⟩ [("button", .directory [])] = [] := by
    decide +kernel
  rw [folders_eq_names oneFolder_wellFormed rfl hfind, hnames]
  rfl

theorem exists_folder_unlisted :
    (¬ ∀ (disk : Disk) (root : String) (patterns : List Glob) (place : List String)
        (entries : List (String × Node)), disk.root.WellFormed →
      disk.find root = .ok (place, .directory entries) →
      ∃ names : List String,
        folders ⟨root, patterns, false⟩ disk = .ok (names.map (Path.join root), []) ∧
        (names.Pairwise fun a b => Path.bytes a < Path.bytes b) ∧
        ∀ name, name ∈ names ↔
          IsSubdirectory entries name ∧ anyMatch patterns (Path.shown name) = false) ∧
    ¬ ∀ (disk : Disk) (root other : String) (patterns : List Glob) (place : List String)
        (entries : List (String × Node)) (names : List String), disk.root.WellFormed →
      disk.find root = .ok (place, .directory entries) →
      disk.find other = .ok (place, .directory entries) →
      folders ⟨root, patterns, false⟩ disk = .ok (names.map (Path.join root), []) →
      folders ⟨other, patterns, false⟩ disk = .ok (names.map (Path.join other), []) := by
  have hpoint := oneFolder_find "." (Or.inl rfl)
  have hslash := oneFolder_find "/" (Or.inr rfl)
  have hbutton : IsSubdirectory [("button", .directory [])] "button" :=
    ⟨.directory [], List.mem_cons_self, rfl⟩
  constructor
  · intro hall
    obtain ⟨names, hfolders, -, hmem⟩ := hall _ _ [hidden] _ _ oneFolder_wellFormed hpoint
    have hnil : names = [] := by simpa [folders_point_oneFolder] using hfolders
    have hlisted : "button" ∈ names := (hmem "button").mpr ⟨hbutton, by decide +kernel⟩
    rw [hnil] at hlisted
    cases hlisted
  · intro hall
    have hfolders := hall _ _ _ [hidden] _ _ [] oneFolder_wellFormed hpoint hslash
      folders_point_oneFolder
    rw [folders_eq_names oneFolder_wellFormed rfl hslash] at hfolders
    have hlisted : "button" ∈ names ⟨"/", [hidden], false⟩ [("button", .directory [])] :=
      mem_names.mpr ⟨hbutton, by decide +kernel, by decide +kernel⟩
    have hnil : names ⟨"/", [hidden], false⟩ [("button", .directory [])] = [] := by
      simpa using hfolders
    rw [hnil] at hlisted
    cases hlisted

theorem folders_eq_unmatched_oneFolder :
    oneFolder.root.WellFormed ∧
      oneFolder.find "/" = .ok ([], .directory [("button", .directory [])]) ∧
      ∃ names : List String,
        folders ⟨"/", [hidden], false⟩ oneFolder = .ok (names.map (Path.join "/"), []) ∧
        "button" ∈ names := by
  have hfind := oneFolder_find "/" (Or.inr rfl)
  obtain ⟨names, hfolders, -, hmem, -, -⟩ :=
    folders_eq_unmatched oneFolder_wellFormed hfind [hidden]
  refine ⟨oneFolder_wellFormed, hfind, names, hfolders, (hmem "button").mpr ⟨?_, ?_, ?_⟩⟩
  · exact ⟨.directory [], List.mem_cons_self, rfl⟩
  · decide +kernel
  · decide +kernel

end Walker

end Showcase
