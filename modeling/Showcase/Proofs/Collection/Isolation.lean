import Showcase.Proofs.Collection.Folders
import Showcase.Proofs.Collection.Tolerant
import Showcase.Proofs.Disk.Refill

namespace Showcase

/-!
# Folders by themselves

A tolerant run gives an account of every folder, each once and in the order of the listing.
On a disk without links, and with a configured name that stays in its directory, the account
of one folder does not depend on what another one holds.
-/

/-! ## Descriptions in a directory -/

namespace Language

variable {configName : String} (h : '/' ∉ configName.toList)

include h

/-- A description whose name has no slash stands directly in its directory. -/
theorem isName_path (language : Language) : Path.IsName (language.path configName) := by
  have hlength : 3 ≤ (language.path configName).toList.length := by
    cases language <;> simp [path, extension]
  refine ⟨?_, ?_, ?_, ?_⟩
  · intro hpath
    simp [hpath] at hlength
  · intro hpath
    simp [hpath] at hlength
  · intro hpath
    simp [hpath] at hlength
  · cases language <;> simp [path, extension, h]

theorem path_join (folder : String) (language : Language) :
    language.path (Path.join folder configName) =
      Path.join folder (language.path configName) := by
  unfold Path.join
  rw [Path.isAbsolute_eq_false_of_slash_notMem h, (isName_path h language).isAbsolute_eq_false]
  simp only [Bool.false_eq_true, if_false]
  split <;> simp [path, String.append_assoc]

end Language

/-! ## What loading reads -/

namespace Disk

variable {disk other : Disk}

/-- Two disks have the same file at a path, or none. -/
structure SameFile (disk other : Disk) (path : String) : Prop where
  isFile : other.isFile path = disk.isFile path
  readText : disk.isFile path = true → other.readText path = disk.readText path

theorem SameFile.of_find {path : String} (h : other.find path = disk.find path) :
    disk.SameFile other path := by
  constructor
  · rw [Disk.isFile, Disk.isFile, node?, node?, h]
  · intro _
    rw [Disk.readText, Disk.readText, h]

theorem firstSource_congr {candidates : List (Language × String)}
    (h : ∀ candidate ∈ candidates, disk.SameFile other candidate.2) :
    other.firstSource candidates = disk.firstSource candidates := by
  induction candidates with
  | nil => rfl
  | cons candidate rest ih =>
      obtain ⟨language, path⟩ := candidate
      have hpath : disk.SameFile other path := h _ List.mem_cons_self
      have hrest := ih fun candidate hcandidate => h candidate (List.mem_cons_of_mem _ hcandidate)
      rw [firstSource, firstSource, hpath.isFile, hrest]
      cases hfile : disk.isFile path with
      | false => rfl
      | true => rw [hpath.readText hfile]

theorem source?_congr {base : String} (h : ∀ language : Language,
    disk.SameFile other (language.path base)) (untypedOnly : Bool) :
    other.source? base untypedOnly = disk.source? base untypedOnly := by
  refine firstSource_congr fun candidate hcandidate => ?_
  obtain ⟨language, -, rfl⟩ := List.mem_map.mp hcandidate
  exact h language

end Disk

namespace Loader

variable {loader : Loader} {disk other : Disk} {folder : String}
  (h : ∀ language : Language,
    disk.SameFile other (language.path (Path.join folder loader.configName)))

include h

/-- Loading reads no file but the descriptions of its folder. -/
theorem load_congr : loader.load other folder = loader.load disk folder := by
  rw [load, load, Disk.source, Disk.source, Disk.source?_congr h]

theorem loadGlobal_congr : loader.loadGlobal other folder = loader.loadGlobal disk folder := by
  rw [loadGlobal, loadGlobal, Disk.source?_congr h]

end Loader

/-! ## Listing without links -/

namespace Walker

variable {walker : Walker} {disk : Disk} {place : List String} {entries : List (String × Node)}

/-- What a listing without links looks at. -/
def outline (entry : String × Node) : String × Bool := (entry.1, entry.2.isDirectory)

theorem list_eq_of_linkFree {entry : String × Node} (hname : Path.IsName entry.1)
    (hlinks : entry.2.LinkFree) :
    walker.list disk place entry =
      if walker.keeps entry then .folder (Path.join walker.root entry.1) else .passed := by
  have hunfollowed : Walker.list { walker with followLinks := false } disk place entry = _ :=
    list_eq rfl hname
  obtain ⟨name, node⟩ := entry
  cases hlinks with
  | file | directory | closed => exact hunfollowed

/-- Without links, following them makes no difference. -/
theorem folders_eq_names_of_linkFree (hnames : ∀ entry ∈ entries, Path.IsName entry.1)
    (hlinks : disk.root.LinkFree)
    (hroot : disk.find walker.root = .ok (place, .directory entries)) :
    walker.folders disk = .ok ((walker.names entries).map (Path.join walker.root), []) := by
  have hbelow : (Node.directory entries).LinkFree := hlinks.at? (Disk.at?_of_find hroot)
  have hlist : ∀ entry ∈ entries.mergeSort nameLe, walker.list disk place entry =
      if walker.keeps entry then .folder (Path.join walker.root entry.1) else .passed := by
    intro entry hentry
    rw [List.mem_mergeSort] at hentry
    cases hbelow with
    | directory below => exact list_eq_of_linkFree (hnames entry hentry) (below entry hentry)
  unfold folders listings
  rw [hroot]
  simp only [filterMap_folder? hlist, filterMap_unreadable? hlist, names]

/-- The names that are kept are told by the outlines of the entries. -/
theorem names_eq_of_outline (walker : Walker) (entries : List (String × Node)) :
    walker.names entries =
      (((entries.map outline).mergeSort fun a b => Path.bytes a.1 ≤ Path.bytes b.1).filter fun o =>
        o.2 && !anyMatch walker.exclude (Path.shown o.1) &&
          !anyMatchPath walker.exclude (Path.join walker.root o.1)).map Prod.fst := by
  have hsort : (entries.mergeSort nameLe).map outline =
      (entries.map outline).mergeSort fun a b => Path.bytes a.1 ≤ Path.bytes b.1 :=
    List.map_mergeSort fun a _ b _ => rfl
  rw [← hsort, List.filter_map, List.map_map]
  rfl

theorem names_setEntry {name : String} {old new : List (String × Node)}
    (hold : entries.lookup name = some (.directory old)) :
    walker.names (Node.setEntry name (.directory new) entries) = walker.names entries := by
  have houtlines : (Node.setEntry name (.directory new) entries).map outline =
      entries.map outline := Node.map_setEntry hold rfl
  rw [names_eq_of_outline, names_eq_of_outline, houtlines]

end Walker

/-! ## Other contents in one folder -/

namespace Disk.Refilled

variable {disk : Disk} {path name : String} {place : List String}
  {entries old new : List (String × Node)} {loader : Loader}

theorem isName_of_mem (h : disk.Refilled path place entries name old new)
    (hdisk : disk.root.WellFormed) {entry : String × Node} (hentry : entry ∈ entries) :
    Path.IsName entry.1 :=
  (wellFormed_of_find hdisk h.find).isName hentry

theorem isName (h : disk.Refilled path place entries name old new)
    (hdisk : disk.root.WellFormed) : Path.IsName name :=
  h.isName_of_mem hdisk (Node.mem_of_child? h.lookup)

/-- The folders beside the one with other contents are loaded as before. -/
theorem load_sibling (h : disk.Refilled path place entries name old new)
    (hconfig : '/' ∉ loader.configName.toList) {other : String} (hname : Path.IsName other)
    (hother : other ≠ name) :
    loader.load (disk.refill (place ++ [name]) new) (Path.join path other) =
      loader.load disk (Path.join path other) := by
  refine Loader.load_congr fun language => .of_find ?_
  have hnames : ∀ next ∈ [other, language.path loader.configName], Path.IsName next := by
    simp [hname, Language.isName_path hconfig language]
  rw [Language.path_join hconfig]
  exact h.find_sibling hother hnames

/-- The description of the directory above is found as before, too: a folder that has its
name is no file. -/
theorem loadGlobal_refill (h : disk.Refilled path place entries name old new)
    (hconfig : '/' ∉ loader.configName.toList) (hname : Path.IsName name) :
    loader.loadGlobal (disk.refill (place ++ [name]) new) path = loader.loadGlobal disk path := by
  refine Loader.loadGlobal_congr fun language => ?_
  rw [Language.path_join hconfig]
  by_cases hleaf : language.path loader.configName = name
  · obtain ⟨hbefore, hafter⟩ := h.isFile_refilled hname
    rw [hleaf]
    refine ⟨hafter.trans hbefore.symm, fun hfile => ?_⟩
    rw [← Bool.not_eq_true] at hbefore
    exact absurd hfile hbefore
  · have hnames : ∀ next ∈ [language.path loader.configName], Path.IsName next := by
      simp [Language.isName_path hconfig language]
    exact .of_find (h.find_sibling hleaf hnames)

/-- The same folders are listed as before. -/
theorem folders_refill {walker : Walker}
    (h : disk.Refilled walker.root place entries name old new) (hdisk : disk.root.WellFormed) :
    walker.folders disk = .ok ((walker.names entries).map (Path.join walker.root), []) ∧
      walker.folders (disk.refill (place ++ [name]) new) =
        .ok ((walker.names entries).map (Path.join walker.root), []) := by
  have hnames : walker.names (Node.setEntry name (.directory new) entries) =
      walker.names entries := Walker.names_setEntry h.lookup
  refine ⟨Walker.folders_eq_names_of_linkFree (fun entry => h.isName_of_mem hdisk) h.linkFree
    h.find, ?_⟩
  rw [← hnames]
  refine Walker.folders_eq_names_of_linkFree (fun entry hentry => ?_) h.linkFree_refill
    h.find_refill
  rcases Node.mem_of_mem_setEntry hentry with rfl | hentry
  · exact h.isName hdisk
  · exact h.isName_of_mem hdisk hentry

end Disk.Refilled

end Showcase
