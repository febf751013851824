import Mathlib.Tactic.SplitIfs
import Showcase.Command
import Showcase.Proofs.Disk.Bytes

namespace Showcase

/-!
# Colours

A terminal takes an escape character, a bracket, digits and semicolons, and an `m` as a change of
colours.  Without these sequences the text with colours is the text without, and nothing but the
text at the terminal depends on colours.
-/

namespace Report

/-! ## Texts without colour sequences -/

/-- Whether a character may stand in the codes of a colour sequence. -/
def isCode (c : Char) : Bool := c.isDigit || c = ';'

/-- The length of the colour sequence with which a text begins, or zero. -/
def sequenceLength : List Char → Nat
  | c :: d :: rest =>
    if c = escapeCharacter ∧ d = '[' ∧ (rest.dropWhile isCode).head? = some 'm' then
      (rest.takeWhile isCode).length + 3
    else 0
  | _ => 0

/-- A text without its colour sequences, of which `skip` characters are still to be left out. -/
def faded : Nat → List Char → List Char
  | _, [] => []
  | skip + 1, _ :: cs => faded skip cs
  | 0, c :: cs =>
    match sequenceLength (c :: cs) with
    | 0 => c :: faded 0 cs
    | skip + 1 => faded skip cs

def withoutColors (text : String) : String := String.ofList (faded 0 text.toList)

theorem faded_length_append (cs rest : List Char) :
    faded cs.length (cs ++ rest) = faded 0 rest := by
  induction cs with
  | nil => rfl
  | cons c cs ih => exact ih

theorem faded_escapeSequence {codes : String} (hcodes : ∀ c ∈ codes.toList, isCode c = true)
    (rest : List Char) :
    faded 0 ((escapeSequence codes).toList ++ rest) = faded 0 rest := by
  have htext : (escapeSequence codes).toList ++ rest =
      escapeCharacter :: '[' :: (codes.toList ++ 'm' :: rest) := by
    simp [escapeSequence]
  have hm : isCode 'm' = false := by decide
  have htake : (codes.toList ++ 'm' :: rest).takeWhile isCode = codes.toList := by
    rw [List.takeWhile_append_of_pos hcodes, List.takeWhile_cons_of_neg (by simp [hm]),
      List.append_nil]
  have hdrop : (codes.toList ++ 'm' :: rest).dropWhile isCode = 'm' :: rest := by
    rw [List.dropWhile_append_of_pos hcodes, List.dropWhile_cons_of_neg (by simp [hm])]
  have hlength : sequenceLength (escapeCharacter :: '[' :: (codes.toList ++ 'm' :: rest)) =
      codes.toList.length + 3 := by
    rw [sequenceLength, htake, hdrop]
    exact if_pos ⟨rfl, rfl, rfl⟩
  have hskip := faded_length_append ('[' :: (codes.toList ++ ['m'])) rest
  rw [htext, faded, hlength]
  simpa using hskip

/-! ## Texts that fade to others -/

/-- Without its colour sequences a text is another one, whatever follows. -/
def Fades (colored plain : String) : Prop :=
  ∀ rest, faded 0 (colored.toList ++ rest) = plain.toList ++ faded 0 rest

theorem Fades.withoutColors_eq {colored plain : String} (h : Fades colored plain) :
    withoutColors colored = plain := by
  have hend := h []
  rw [List.append_nil, faded, List.append_nil] at hend
  rw [withoutColors, hend, String.ofList_toList]

theorem Fades.append {colored plain colored' plain' : String} (h : Fades colored plain)
    (h' : Fades colored' plain') : Fades (colored ++ colored') (plain ++ plain') := by
  intro rest
  rw [String.toList_append, String.toList_append, List.append_assoc, h, h', List.append_assoc]

theorem Fades.join {items : List α} {f g : α → String}
    (h : ∀ item ∈ items, Fades (f item) (g item)) :
    Fades (String.join (items.map f)) (String.join (items.map g)) := by
  induction items with
  | nil => exact fun rest => rfl
  | cons item items ih =>
      obtain ⟨hitem, hitems⟩ := List.forall_mem_cons.mp h
      intro rest
      have hrest := ih hitems rest
      simp only [String.toList_join, List.map_cons, List.flatMap_cons, List.append_assoc] at hrest ⊢
      rw [hitem, hrest]

/-- A text without the character that begins a colour sequence. -/
def EscapeFree (text : String) : Prop := escapeCharacter ∉ text.toList

instance (text : String) : Decidable (EscapeFree text) :=
  inferInstanceAs (Decidable (escapeCharacter ∉ text.toList))

@[simp] theorem escapeFree_append {s t : String} :
    EscapeFree (s ++ t) ↔ EscapeFree s ∧ EscapeFree t := by
  simp [EscapeFree]

@[simp] theorem escapeFree_toString {s : String} : EscapeFree (toString s) ↔ EscapeFree s := Iff.rfl

@[simp] theorem escapeFree_natRepr (n : Nat) : EscapeFree n.repr := by
  intro hescape
  rw [Nat.repr_eq_ofList_toDigits, String.toList_ofList] at hescape
  have hdigit := Nat.isDigit_of_mem_toDigits (by decide) (by decide) hescape
  exact absurd hdigit (by decide)

/-- What is shown of a path brings no escape character in. -/
theorem EscapeFree.shown {path : String} (h : EscapeFree path) : EscapeFree (Path.shown path) := by
  intro hescape
  rcases Path.mem_of_mem_shown hescape with heq | hmem
  · exact absurd heq (by decide)
  · exact h hmem

theorem faded_append_of_notMem {cs : List Char} (h : escapeCharacter ∉ cs) (rest : List Char) :
    faded 0 (cs ++ rest) = cs ++ faded 0 rest := by
  induction cs with
  | nil => rfl
  | cons c cs ih =>
      rw [List.mem_cons, not_or] at h
      obtain ⟨hc, hcs⟩ := h
      have hlength : sequenceLength (c :: (cs ++ rest)) = 0 := by
        unfold sequenceLength
        split
        · rename_i heq
          obtain ⟨rfl, -⟩ := List.cons.inj heq
          exact if_neg fun h => hc h.1.symm
        · rfl
      rw [List.cons_append, faded, hlength, ih hcs, List.cons_append]

theorem EscapeFree.fades {text : String} (h : EscapeFree text) : Fades text text :=
  faded_append_of_notMem h

theorem isCode_codes (style : Style) : ∀ c ∈ style.codes.toList, isCode c = true := by
  rw [← List.all_eq_true]
  cases style <;> decide +kernel

theorem fades_paint (style : Style) {text : String} (h : EscapeFree text) :
    Fades (paint true style text) (paint false style text) := by
  intro rest
  have hreset : ∀ c ∈ "0".toList, isCode c = true := List.all_eq_true.mp (by decide)
  have hpaint : (paint true style text).toList ++ rest =
      (escapeSequence style.codes).toList ++
        (text.toList ++ ((escapeSequence "0").toList ++ rest)) := by
    simp [paint]
  rw [hpaint, faded_escapeSequence (isCode_codes style), h.fades,
    faded_escapeSequence hreset]
  rfl

/-! ## The parts of the text -/

theorem mem_of_mem_splitOnP {α : Type*} {p : α → Bool} {xs piece : List α} {x : α}
    (hpiece : piece ∈ xs.splitOnP p) (hx : x ∈ piece) : x ∈ xs := by
  induction xs generalizing piece with
  | nil =>
      obtain rfl : piece = [] := by simpa using hpiece
      exact hx
  | cons y ys ih =>
      rw [List.splitOnP_cons_eq_if_modifyHead] at hpiece
      split_ifs at hpiece with hy
      · rcases List.mem_cons.mp hpiece with rfl | hpiece
        · cases hx
        · exact List.mem_cons_of_mem y (ih hpiece hx)
      · cases hsplit : ys.splitOnP p with
        | nil => simp [hsplit] at hpiece
        | cons first others =>
            rw [hsplit] at ih
            rw [hsplit, List.modifyHead_cons] at hpiece
            rcases List.mem_cons.mp hpiece with rfl | hpiece
            · rcases List.mem_cons.mp hx with rfl | hx
              · exact List.mem_cons_self
              · exact List.mem_cons_of_mem y (ih List.mem_cons_self hx)
            · exact List.mem_cons_of_mem y (ih (List.mem_cons_of_mem first hpiece) hx)

theorem mem_of_mem_linesOf {cs line : List Char} (hline : line ∈ Text.linesOf cs) {c : Char}
    (hc : c ∈ line) : c ∈ cs := by
  have hpiece : ∃ piece ∈ cs.splitOn '\n', c ∈ piece := by
    have hclosed : line ∈ (cs.splitOn '\n').dropLast.map (fun line =>
        if line.getLast? = some '\r' then line.dropLast else line) →
        ∃ piece ∈ cs.splitOn '\n', c ∈ piece := by
      intro hmem
      obtain ⟨piece, hpiece, rfl⟩ := List.mem_map.mp hmem
      refine ⟨piece, List.dropLast_subset _ hpiece, ?_⟩
      split_ifs at hc
      · exact List.dropLast_subset _ hc
      · exact hc
    unfold Text.linesOf at hline
    dsimp only at hline
    split at hline
    · exact hclosed hline
    · exact hclosed hline
    · rename_i rest hlast
      rcases List.mem_append.mp hline with hline | hline
      · exact hclosed hline
      · obtain rfl := List.mem_singleton.mp hline
        exact ⟨line, List.mem_of_getLast? hlast, hc⟩
  obtain ⟨piece, hpiece, hc⟩ := hpiece
  exact mem_of_mem_splitOnP hpiece hc

theorem escapeFree_indented (width : Nat) {text : String} (h : EscapeFree text) :
    EscapeFree (indented width text) := by
  intro hescape
  rw [indented, String.toList_ofList] at hescape
  obtain ⟨line, hline, hescape⟩ := List.mem_flatMap.mp hescape
  have hblank : escapeCharacter ∉ List.replicate width ' ' := by
    intro hmem
    exact absurd (List.eq_of_mem_replicate hmem) (by decide)
  rcases List.mem_append.mp hescape with hescape | hescape
  · rcases List.mem_append.mp hescape with hescape | hescape
    · exact hblank hescape
    · exact h (mem_of_mem_linesOf hline hescape)
  · exact absurd (List.mem_singleton.mp hescape) (by decide)

/-- The texts of a component that are shown at the terminal hold no escape character. -/
structure EscapeFreeComponent (component : FolderOptions) : Prop where
  title : EscapeFree component.title
  configPath : EscapeFree component.configPath
  place : EscapeFree component.component.location.path
  description : ∀ s ∈ component.metadata.description, EscapeFree s
  code : EscapeFree component.component.code
  alt : ∀ entry ∈ component.props, ∀ s ∈ entry.options.alt, EscapeFree s
  entryCode : ∀ entry ∈ component.props, EscapeFree entry.displayCode

/-- The texts of results that are shown at the terminal hold no escape character. -/
structure EscapeFreeResults (results : Results) : Prop where
  root : EscapeFree results.root
  title : ∀ s ∈ results.title?, EscapeFree s
  folder : ∀ error ∈ results.errors, EscapeFree error.folder
  message : ∀ error ∈ results.errors, EscapeFree error.message
  component : ∀ component ∈ results.components, EscapeFreeComponent component

theorem escapeFree_entryLabel {entry : PropsEntry} (halt : ∀ s ∈ entry.options.alt, EscapeFree s) :
    EscapeFree (entryLabel entry) := by
  unfold entryLabel
  split
  · rename_i alt heq
    have h := halt alt heq
    simp +decide [h]
  · simp +decide

section Component

variable {component : FolderOptions} (h : EscapeFreeComponent component)

include h

theorem escapeFree_descriptionLine :
    EscapeFree (match component.metadata.description with
      | some description => s!"  Description: {description}\n"
      | none => "") := by
  split
  · rename_i description heq
    have htext := h.description description heq
    simp +decide [htext]
  · decide

theorem fades_componentDetails :
    Fades (componentDetails true component) (componentDetails false component) := by
  have hdescription := escapeFree_descriptionLine h
  have hsource : EscapeFree "\n  Component source:\n" := by decide
  have hcode := escapeFree_indented 4 h.code
  have hentries : Fades
      (String.join (component.props.map fun entry =>
        paint true .marked (entryLabel entry) ++ indented 4 entry.displayCode))
      (String.join (component.props.map fun entry =>
        paint false .marked (entryLabel entry) ++ indented 4 entry.displayCode)) := by
    refine Fades.join fun entry hentry => ?_
    have hlabel := fades_paint .marked (escapeFree_entryLabel (h.alt entry hentry))
    have hentryCode := escapeFree_indented 4 (h.entryCode entry hentry)
    exact hlabel.append hentryCode.fades
  exact ((hdescription.fades.append hsource.fades).append hcode.fades).append hentries

theorem fades_componentText (verbose : Bool) :
    Fades (componentText true verbose component) (componentText false verbose component) := by
  have htitle := fades_paint .heading h.title
  have hextension : EscapeFree ("(" ++ component.language.extension ++ ")") := by
    cases component.language <;> decide
  have hlanguage := fades_paint .faint hextension
  have hconfig := fades_paint .faint h.configPath.shown
  have hplace : EscapeFree component.component.location.display := by
    have hpath := h.place.shown
    simp +decide [Location.display, hpath]
  have hcount : EscapeFree s!"  Props entries: {component.props.length}\n" := by
    simp +decide
  have hdetails : Fades (if verbose then componentDetails true component else "")
      (if verbose then componentDetails false component else "") := by
    split_ifs
    · exact fades_componentDetails h
    · exact EscapeFree.fades (by decide)
  have hline : Fades "\n" "\n" := EscapeFree.fades (by decide)
  have hspace : Fades " " " " := EscapeFree.fades (by decide)
  have hconfigLabel : Fades "  Config: " "  Config: " := EscapeFree.fades (by decide)
  have hplaceLabel : Fades "  Component: " "  Component: " := EscapeFree.fades (by decide)
  have hhead := ((htitle.append hspace).append hlanguage).append hline
  have hbody := ((hhead.append hconfigLabel).append hconfig).append hline
  have hplaced := ((hbody.append hplaceLabel).append hplace.fades).append hline
  exact ((hplaced.append hcount.fades).append hdetails).append hline

end Component

theorem escapeFree_duration (nanoseconds : Nat) : EscapeFree (duration nanoseconds) := by
  unfold duration
  split_ifs
  · simp +decide
  · dsimp only
    split_ifs <;> simp +decide

section Results

variable {results : Results} (h : EscapeFreeResults results)

include h

theorem fades_errorText : Fades (errorText true results) (errorText false results) := by
  have hcount : EscapeFree s!"Failed folders: {results.summary.failedFolders}" := by
    simp +decide
  have hline : Fades "\n" "\n" := EscapeFree.fades (by decide)
  have herrors : Fades (String.join (results.errors.map (errorLine true)))
      (String.join (results.errors.map (errorLine false))) := by
    refine Fades.join fun error herror => ?_
    have hname : EscapeFree error.severity.tag := by
      cases error.severity <;> decide
    have htag := fades_paint (severityStyle error.severity) hname
    have hopen : Fades "  [" "  [" := EscapeFree.fades (by decide)
    have hclose : Fades "] " "] " := EscapeFree.fades (by decide)
    have hcolon : Fades ": " ": " := EscapeFree.fades (by decide)
    have hfolder := ((hopen.append htag).append hclose).append (h.folder error herror).shown.fades
    exact ((hfolder.append hcolon).append (h.message error herror).fades).append hline
  unfold errorText
  split_ifs
  · exact EscapeFree.fades (by decide)
  · exact ((hline.append (fades_paint .alarm hcount)).append hline).append herrors

theorem escapeFree_titleLine :
    EscapeFree (match results.title? with
      | some title => s!"Title: {title}\n"
      | none => "") := by
  split
  · rename_i title heq
    have htext := h.title title heq
    simp +decide [htext]
  · decide

theorem fades_text (verbose : Bool) :
    Fades (text true verbose results) (text false verbose results) := by
  have hsummary : EscapeFree "Component Readme Summary" := by decide
  have hheading := fades_paint .heading hsummary
  have hgap : Fades "\n\n" "\n\n" := EscapeFree.fades (by decide)
  have hline : Fades "\n" "\n" := EscapeFree.fades (by decide)
  have htitle := escapeFree_titleLine h
  have hroot : EscapeFree s!"Root: {Path.shown results.root}\n" := by
    have htext := h.root.shown
    simp +decide [htext]
  have hfolders : EscapeFree s!"Component folders: {results.summary.totalFolders}\n" := by
    simp +decide
  have hloaded : EscapeFree s!"Components loaded: {results.summary.components}" := by
    simp +decide
  have hprops : EscapeFree s!"Props entries: {results.summary.propsEntries}\n" := by
    simp +decide
  have htime : EscapeFree s!"Scan duration: {duration results.summary.duration}\n" := by
    have htext := escapeFree_duration results.summary.duration
    simp +decide [htext]
  have hcomponents : Fades
      (if results.components.isEmpty then ""
        else
          "\nComponents:\n\n" ++
            String.join (results.components.map (componentText true verbose)))
      (if results.components.isEmpty then ""
        else
          "\nComponents:\n\n" ++
            String.join (results.components.map (componentText false verbose))) := by
    split_ifs
    · exact EscapeFree.fades (by decide)
    · have hlabel : Fades "\nComponents:\n\n" "\nComponents:\n\n" := EscapeFree.fades (by decide)
      exact hlabel.append (Fades.join fun component hcomponent =>
        fades_componentText (h.component component hcomponent) verbose)
  have hhead := (((hheading.append hgap).append htitle.fades).append hroot.fades).append
    hfolders.fades
  have hcounts := ((hhead.append (fades_paint .good hloaded)).append hline).append hprops.fades
  exact ((hcounts.append htime.fades).append (fades_errorText h)).append hcomponents

theorem fades_brief : Fades (brief results) (brief results) := by
  refine Fades.append (EscapeFree.fades ?_) (Fades.join fun error herror => EscapeFree.fades ?_)
  · simp +decide
  have hfolder := (h.folder error herror).shown
  have hmessage := h.message error herror
  simp +decide [hfolder, hmessage]

end Results

end Report

/-! ## Formats -/

open Report

theorem Results.withoutColors_format {results : Results} (h : EscapeFreeResults results)
    (verbose quiet : Bool) :
    ∃ colored, results.format .text ⟨true, verbose, quiet⟩ = .ok colored ∧
      results.format .text ⟨false, verbose, quiet⟩ = .ok (withoutColors colored) := by
  cases quiet with
  | true => exact ⟨_, rfl, congrArg Except.ok (fades_brief h).withoutColors_eq.symm⟩
  | false => exact ⟨_, rfl, congrArg Except.ok (fades_text h verbose).withoutColors_eq.symm⟩

theorem Results.format_eq_of_ne_text (results : Results) {format : OutputFormat}
    (h : format ≠ .text) (style style' : TextStyle) :
    results.format format style = results.format format style' := by
  cases format with
  | text => exact absurd rfl h
  | json | csv | markdown => rfl

/-! ## Commands -/

/-- Settings with another say about colours. -/
def Settings.withColors (settings : Settings) (colors : Bool) : Settings :=
  { settings with useColors := colors }

theorem Command.style_withColors {settings : Settings} (h : settings.outputFile.isSome)
    (colors : Bool) : style (settings.withColors colors) = style settings := by
  have hnone : settings.outputFile.isNone = false := by simpa using h
  simp [style, Settings.withColors, hnone]

def Collector.withColors (collector : Collector) (colors : Bool) : Collector :=
  { collector with settings := collector.settings.withColors colors }

theorem Collector.ofSettings_withColors (settings : Settings) (colors : Bool) :
    ofSettings (settings.withColors colors) = (ofSettings settings).map (·.withColors colors) := by
  unfold ofSettings
  have hwalker : Walker.ofSettings (settings.withColors colors) = Walker.ofSettings settings := rfl
  rw [hwalker]
  cases Walker.ofSettings settings <;> rfl

namespace Collector

variable (collector : Collector) (colors : Bool)

theorem upToFailure_withColors (disk : Disk) (folders : List String) :
    (collector.withColors colors).upToFailure disk folders =
      collector.upToFailure disk folders := by
  induction folders with
  | nil => rfl
  | cons folder rest ih =>
      rw [upToFailure, upToFailure, ih]
      rfl

theorem strictSchedule_withColors (disk : Disk) (parallel : Plan) (folders : List String) :
    (collector.withColors colors).strictSchedule disk parallel folders =
      collector.strictSchedule disk parallel folders := by
  rw [strictSchedule, strictSchedule, upToFailure_withColors]
  rfl

theorem collectListed_withColors (listed : Except Fault (List String × List Unreadable))
    (disk : Disk) (clock : Clock) (parallel : Plan) :
    (collector.withColors colors).collectListed listed disk clock parallel =
      collector.collectListed listed disk clock parallel := by
  have hstrict : (collector.withColors colors).strict disk clock parallel =
      collector.strict disk clock parallel := by
    funext folders unreadable
    unfold strict loadAllOrFail
    rw [strictSchedule_withColors]
    rfl
  unfold collectListed
  rw [hstrict]
  rfl

end Collector

end Showcase
