import Mathlib.Tactic.SplitIfs
import Showcase.Report.Markdown

namespace Showcase

/-!
# Reading code blocks back

A reader of Markdown goes through the lines of a text.  A line of backticks with a word behind
it opens a block, and a line of at least as many backticks and nothing else closes it.  The
blocks of a written section are the codes that it was written from as long as no line of those
codes looks like the end of a block.
-/

namespace CommonMark

/-! ## Lines -/

/-- A line and what ends it: a line feed, a carriage return, both, or the end of the text. -/
structure Line where
  text : List Char
  ending : List Char
deriving DecidableEq

def Line.raw (line : Line) : List Char := line.text ++ line.ending

/-- The lines of a text with one more character in front. -/
def put (c : Char) (following : List Line) : List Line :=
  if c = '\n' then ⟨[], ['\n']⟩ :: following
  else if c = '\r' then
    if following.head? = some ⟨[], ['\n']⟩ then ⟨[], ['\r', '\n']⟩ :: following.tail
    else ⟨[], ['\r']⟩ :: following
  else
    let line := following.headD ⟨[], []⟩
    ⟨c :: line.text, line.ending⟩ :: following.tail

def lines (cs : List Char) : List Line := cs.foldr put []

theorem put_ne_nil (c : Char) (following : List Line) : put c following ≠ [] := by
  unfold put
  split_ifs <;> exact List.cons_ne_nil _ _

theorem lines_ne_nil {cs : List Char} (h : cs ≠ []) : lines cs ≠ [] := by
  obtain ⟨c, cs, rfl⟩ := List.exists_cons_of_ne_nil h
  exact put_ne_nil c (lines cs)

theorem put_append (c : Char) {following : List Line} (h : following ≠ []) (rest : List Line) :
    put c (following ++ rest) = put c following ++ rest := by
  obtain ⟨line, more, rfl⟩ := List.exists_cons_of_ne_nil h
  unfold put
  split_ifs with hfeed hreturn hhead hhead' <;> simp_all

theorem lines_append_newline (cs rest : List Char) :
    lines (cs ++ '\n' :: rest) = lines (cs ++ ['\n']) ++ lines rest := by
  induction cs with
  | nil => rfl
  | cons c cs ih =>
      have hnil : lines (cs ++ ['\n']) ≠ [] := lines_ne_nil (by simp)
      calc
        lines (c :: cs ++ '\n' :: rest) = put c (lines (cs ++ '\n' :: rest)) := rfl
        _ = put c (lines (cs ++ ['\n']) ++ lines rest) := by rw [ih]
        _ = put c (lines (cs ++ ['\n'])) ++ lines rest := put_append c hnil _

theorem mem_of_mem_put {c d : Char} {following : List Line} {line : Line}
    (hline : line ∈ put c following) (hd : d ∈ line.text) :
    d = c ∨ ∃ other ∈ following, d ∈ other.text := by
  unfold put at hline
  split_ifs at hline with hfeed hreturn hhead
  · rcases List.mem_cons.mp hline with rfl | hmem
    · cases hd
    · exact .inr ⟨line, hmem, hd⟩
  · rcases List.mem_cons.mp hline with rfl | hmem
    · cases hd
    · exact .inr ⟨line, List.mem_of_mem_tail hmem, hd⟩
  · rcases List.mem_cons.mp hline with rfl | hmem
    · cases hd
    · exact .inr ⟨line, hmem, hd⟩
  · rcases List.mem_cons.mp hline with rfl | hmem
    · rcases List.mem_cons.mp hd with rfl | hd
      · exact .inl rfl
      · cases following with
        | nil => cases hd
        | cons other rest => exact .inr ⟨other, List.mem_cons_self, hd⟩
    · exact .inr ⟨line, List.mem_of_mem_tail hmem, hd⟩

theorem mem_of_mem_lines {cs : List Char} {line : Line} {d : Char} (hline : line ∈ lines cs)
    (hd : d ∈ line.text) : d ∈ cs := by
  induction cs generalizing line with
  | nil => cases hline
  | cons c cs ih =>
      rcases mem_of_mem_put hline hd with rfl | ⟨other, hother, hd⟩
      · exact List.mem_cons_self
      · exact List.mem_cons_of_mem _ (ih hother hd)

/-- The text of lines without the ending of the last. -/
def textOf : List Line → List Char
  | [] => []
  | [line] => line.text
  | line :: next :: rest => line.raw ++ textOf (next :: rest)

theorem textOf_cons (line : Line) {rest : List Line} (h : rest ≠ []) :
    textOf (line :: rest) = line.raw ++ textOf rest := by
  obtain ⟨next, rest, rfl⟩ := List.exists_cons_of_ne_nil h
  rfl

theorem textOf_ne_nil {line : Line} (h : line.text ≠ []) (rest : List Line) :
    textOf (line :: rest) ≠ [] := by
  cases rest with
  | nil => exact h
  | cons next rest =>
      rw [textOf_cons line (List.cons_ne_nil _ _), Line.raw]
      simp [h]

theorem textOf_append (before : List Line) {rest : List Line} (h : rest ≠ []) :
    textOf (before ++ rest) = before.flatMap Line.raw ++ textOf rest := by
  induction before with
  | nil => rfl
  | cons line before ih =>
      rw [List.cons_append, textOf_cons line (by simp [h]), ih, List.flatMap_cons,
        List.append_assoc]

theorem length_textOf_le (ls : List Line) :
    (textOf ls).length ≤ (ls.flatMap Line.raw).length := by
  induction ls with
  | nil => exact Nat.le_refl _
  | cons line rest ih =>
      cases rest with
      | nil => simp [textOf, Line.raw]
      | cons next rest =>
          rw [textOf_cons _ (List.cons_ne_nil _ _), List.flatMap_cons, List.length_append,
            List.length_append]
          exact Nat.add_le_add_left ih _

/-- One more character in front is one more character in the text, unless it joins the ending of
the last line. -/
theorem textOf_put {c : Char} {following : List Line} (hnil : following ≠ [])
    (hjoin : c = '\r' → following ≠ [⟨[], ['\n']⟩]) :
    textOf (put c following) = c :: textOf following := by
  obtain ⟨line, rest, rfl⟩ := List.exists_cons_of_ne_nil hnil
  unfold put
  split_ifs with hfeed hreturn hhead
  · rw [textOf_cons _ hnil, hfeed]
    rfl
  · obtain rfl : line = ⟨[], ['\n']⟩ := by simpa using hhead
    have hrest : rest ≠ [] := fun hrest => hjoin hreturn (by rw [hrest])
    rw [List.tail_cons, textOf_cons _ hrest, textOf_cons _ hrest, hreturn]
    rfl
  · rw [textOf_cons _ hnil, hreturn]
    rfl
  · cases rest with
    | nil => rfl
    | cons next rest => rfl

theorem textOf_lines_append_newline {cs : List Char} (h : cs.getLast? ≠ some '\r') :
    textOf (lines (cs ++ ['\n'])) = cs := by
  induction cs with
  | nil => rfl
  | cons c cs ih =>
      by_cases hcs : cs = []
      · subst hcs
        have hreturn : c ≠ '\r' := by simpa using h
        exact textOf_put (List.cons_ne_nil _ _) fun h => absurd h hreturn
      · have htext : textOf (lines (cs ++ ['\n'])) = cs := by
          refine ih ?_
          rwa [List.getLast?_cons_of_ne_nil hcs] at h
        have hnil : lines (cs ++ ['\n']) ≠ [] := lines_ne_nil (by simp)
        have hput := textOf_put (c := c) hnil fun _ hjoin => hcs (by rw [← htext, hjoin]; rfl)
        rw [htext] at hput
        exact hput

/-! ## Blocks -/

def tick : Char := '\x60'

/-- A text without the spaces in front of it, of which a line that opens or closes a block has
at most three. -/
def unindented? (text : List Char) : Option (List Char) :=
  if (text.takeWhile (· = ' ')).length ≤ 3 then some (text.dropWhile (· = ' ')) else none

/-- The number of backticks with which a line opens a block. -/
def opening? (text : List Char) : Option Nat := do
  let rest ← unindented? text
  let count := (rest.takeWhile (· = tick)).length
  if 3 ≤ count ∧ tick ∉ rest.dropWhile (· = tick) then some count else none

/-- Whether a line closes a block that was opened with a number of backticks. -/
def closes (count : Nat) (text : List Char) : Bool :=
  match unindented? text with
  | none => false
  | some rest =>
    count ≤ (rest.takeWhile (· = tick)).length && (rest.dropWhile (· = tick)).all (· = ' ')

/-- The blocks of lines.  A block that has been opened comes with its number of backticks and
its lines so far; without a line that closes it, it reaches to the end. -/
def blocksFrom : Option (Nat × List Line) → List Line → List String
  | none, [] => []
  | some (_, inside), [] => [String.ofList (textOf inside)]
  | none, line :: rest => blocksFrom ((opening? line.text).map (·, [])) rest
  | some (count, inside), line :: rest =>
    if closes count line.text then String.ofList (textOf inside) :: blocksFrom none rest
    else blocksFrom (some (count, inside ++ [line])) rest

def blocks (source : String) : List String := blocksFrom none (lines source.toList)

theorem opening?_eq_none {text : List Char} (h : tick ∉ text) : opening? text = none := by
  have hrest : (text.dropWhile (· = ' ')).takeWhile (· = tick) = [] := by
    have htick : tick ∉ text.dropWhile (· = ' ') :=
      fun hmem => h ((List.dropWhile_suffix _).subset hmem)
    cases hdrop : text.dropWhile (· = ' ') with
    | nil => rfl
    | cons c rest =>
        have hc : c ≠ tick := fun hc => htick (by simp [hdrop, hc])
        simp [hc]
  unfold opening? unindented?
  split_ifs
  · simp [hrest]
  · rfl

theorem blocksFrom_prose {before : List Line} (h : ∀ line ∈ before, tick ∉ line.text)
    (rest : List Line) : blocksFrom none (before ++ rest) = blocksFrom none rest := by
  induction before with
  | nil => rfl
  | cons line before ih =>
      obtain ⟨hline, hbefore⟩ := List.forall_mem_cons.mp h
      rw [List.cons_append, blocksFrom, opening?_eq_none hline]
      exact ih hbefore

theorem blocksFrom_inside {count : Nat} {body : List Line}
    (hbody : ∀ line ∈ body, closes count line.text = false) (inside rest : List Line) :
    blocksFrom (some (count, inside)) (body ++ rest) =
      blocksFrom (some (count, inside ++ body)) rest := by
  induction body generalizing inside with
  | nil => rw [List.nil_append, List.append_nil]
  | cons line body ih =>
      obtain ⟨hline, hbody⟩ := List.forall_mem_cons.mp hbody
      rw [List.cons_append, blocksFrom, hline, if_neg Bool.false_ne_true, ih hbody,
        List.append_assoc, List.singleton_append]

theorem blocksFrom_closed {count : Nat} {body : List Line} {line : Line}
    (hbody : ∀ line ∈ body, closes count line.text = false) (hline : closes count line.text = true)
    (rest : List Line) :
    blocksFrom (some (count, [])) (body ++ line :: rest) =
      String.ofList (textOf body) :: blocksFrom none rest := by
  rw [blocksFrom_inside hbody, List.nil_append, blocksFrom, if_pos hline]

/-- A line that closes a block before its last line cuts the block short. -/
theorem blocksFrom_cut {count : Nat} {body : List Line} (hcount : 0 < count)
    (hbody : ∃ line ∈ body, closes count line.text = true) (rest : List Line) :
    ∃ content more, blocksFrom (some (count, [])) (body ++ rest) = content :: more ∧
      content ≠ String.ofList (textOf body) := by
  have hfind : (body.find? fun line => closes count line.text).isSome := by
    simpa using hbody
  obtain ⟨line, hline⟩ := Option.isSome_iff_exists.mp hfind
  obtain ⟨hcloses, before, following, rfl, hbefore⟩ := List.find?_eq_some_iff_append.mp hline
  rw [List.append_assoc, List.cons_append, blocksFrom_closed (by simpa using hbefore) hcloses]
  refine ⟨_, _, rfl, fun hcontent => ?_⟩
  -- The line itself is part of the text of the whole body.
  have htext : line.text ≠ [] := by
    rintro hempty
    rw [hempty] at hcloses
    have hzero : closes count [] = false := by
      simp [closes, unindented?]
      omega
    rw [hzero] at hcloses
    cases hcloses
  have hlength : (textOf before).length = (textOf (before ++ line :: following)).length := by
    rw [String.ofList_inj.mp hcontent]
  have hle : (textOf before).length ≤ (before.flatMap Line.raw).length := length_textOf_le before
  have hpos : 0 < (textOf (line :: following)).length :=
    List.length_pos_iff.mpr (textOf_ne_nil htext following)
  rw [textOf_append before (List.cons_ne_nil _ _), List.length_append] at hlength
  omega

end CommonMark

namespace Report

open CommonMark Text

/-! ## Written sections -/

/-- A text without backticks that ends with its last line. -/
structure Prose (cs : List Char) : Prop where
  tickless : tick ∉ cs
  ends : cs = [] ∨ ∃ before, cs = before ++ ['\n']

namespace Prose

theorem nil : Prose [] := ⟨List.not_mem_nil, .inl rfl⟩

theorem line {cs : List Char} (h : tick ∉ cs) : Prose (cs ++ ['\n']) :=
  ⟨by simpa [tick] using h, .inr ⟨cs, rfl⟩⟩

theorem append {xs ys : List Char} (hxs : Prose xs) (hys : Prose ys) : Prose (xs ++ ys) := by
  refine ⟨by simp [hxs.tickless, hys.tickless], ?_⟩
  rcases hys.ends with rfl | ⟨before, rfl⟩
  · simpa using hxs.ends
  · exact .inr ⟨xs ++ before, by simp⟩

theorem blocksFrom_lines {cs : List Char} (h : Prose cs) (rest : List Char) :
    blocksFrom none (lines (cs ++ rest)) = blocksFrom none (lines rest) := by
  rcases h.ends with rfl | ⟨before, rfl⟩
  · rfl
  · rw [List.append_assoc, List.singleton_append, lines_append_newline]
    exact blocksFrom_prose (fun line hline htick => h.tickless (mem_of_mem_lines hline htick)) _

end Prose

/-- What stands in the block of a code. -/
def body (code : String) : List Char := trimBack code.toList ++ ['\n']

/-- Whether a line of a code looks like the end of a block. -/
def ClosesEarly (code : String) : Prop := ∃ line ∈ lines (body code), closes 3 line.text = true

instance (code : String) : Decidable (ClosesEarly code) :=
  inferInstanceAs (Decidable (∃ line ∈ lines (body code), closes 3 line.text = true))

theorem getLast?_trimBack (cs : List Char) : (trimBack cs).getLast? ≠ some '\r' := by
  unfold trimBack
  rw [List.getLast?_reverse]
  cases hdrop : cs.reverse.dropWhile isBlank with
  | nil => exact nofun
  | cons c rest =>
      have hc : isBlank c = false := by
        have hhead := List.head?_dropWhile_not isBlank cs.reverse
        simpa [hdrop] using hhead
      rintro ⟨rfl⟩
      exact absurd hc (by decide)

theorem textOf_lines_body (code : String) :
    String.ofList (textOf (lines (body code))) = trimmedBack code := by
  rw [body, textOf_lines_append_newline (getLast?_trimBack _), trimmedBack]

theorem toList_codeBlock (language code : String) :
    (codeBlock language code).toList =
      (fence ++ language).toList ++ '\n' :: (body code ++ (fence.toList ++ '\n' :: ['\n'])) := by
  simp [codeBlock, body, trimmedBack]

/-- A block opens with its language. -/
theorem blocksFrom_open (language : Language) (rest : List Char) :
    blocksFrom none (lines ((fence ++ fenceLanguage language).toList ++ '\n' :: rest)) =
      blocksFrom (some (3, [])) (lines rest) := by
  have hopen : ∃ line, lines ((fence ++ fenceLanguage language).toList ++ ['\n']) = [line] ∧
      opening? line.text = some 3 := by
    cases language with
    | js => exact ⟨⟨"\x60\x60\x60js".toList, ['\n']⟩, by decide +kernel⟩
    | ts | tsx => exact ⟨⟨"\x60\x60\x60tsx".toList, ['\n']⟩, by decide +kernel⟩
  obtain ⟨line, hline, hcount⟩ := hopen
  rw [lines_append_newline, hline, List.singleton_append, blocksFrom, hcount]
  rfl

/-- A text and a block of code. -/
structure Section where
  prose : List Char
  language : Language
  code : String

namespace Section

def toList (s : Section) : List Char :=
  s.prose ++ (codeBlock (fenceLanguage s.language) s.code).toList

variable {s : Section} (hprose : Prose s.prose) (rest : List Char)

include hprose

theorem blocksFrom_lines :
    blocksFrom none (lines (s.toList ++ rest)) =
      blocksFrom (some (3, []))
        (lines (body s.code) ++ ⟨fence.toList, ['\n']⟩ :: ⟨[], ['\n']⟩ :: lines rest) := by
  have hbody : lines (body s.code ++ (fence.toList ++ '\n' :: '\n' :: rest)) =
      lines (body s.code) ++ lines (fence.toList ++ '\n' :: '\n' :: rest) := by
    rw [body, List.append_assoc, List.singleton_append, lines_append_newline]
  have hfence : lines (fence.toList ++ '\n' :: '\n' :: rest) =
      ⟨fence.toList, ['\n']⟩ :: ⟨[], ['\n']⟩ :: lines rest := by
    have hline : lines (fence.toList ++ ['\n']) = [⟨fence.toList, ['\n']⟩] := by decide +kernel
    rw [lines_append_newline, hline]
    rfl
  rw [← hfence, ← hbody, toList, List.append_assoc, hprose.blocksFrom_lines, toList_codeBlock,
    List.append_assoc, List.cons_append, blocksFrom_open]
  simp

theorem blocksFrom_of_not_closesEarly (h : ¬ ClosesEarly s.code) :
    blocksFrom none (lines (s.toList ++ rest)) =
      trimmedBack s.code :: blocksFrom none (lines rest) := by
  have hbody : ∀ line ∈ lines (body s.code), closes 3 line.text = false := by
    intro line hline
    cases hcloses : closes 3 line.text with
    | false => rfl
    | true => exact absurd ⟨line, hline, hcloses⟩ h
  have hfence : closes 3 fence.toList = true := by decide +kernel
  rw [blocksFrom_lines hprose, blocksFrom_closed hbody hfence, textOf_lines_body]
  rfl

theorem blocksFrom_of_closesEarly (h : ClosesEarly s.code) :
    ∃ content more, blocksFrom none (lines (s.toList ++ rest)) = content :: more ∧
      content ≠ trimmedBack s.code := by
  rw [blocksFrom_lines hprose, ← textOf_lines_body]
  exact blocksFrom_cut (by decide) h _

end Section

/-- The codes of sections can be read back just when no line of them looks like the end of a
block. -/
theorem blocksFrom_sections {sections : List Section} (h : ∀ s ∈ sections, Prose s.prose) :
    blocksFrom none (lines (sections.flatMap Section.toList)) =
        sections.map (fun s => trimmedBack s.code) ↔
      ∀ s ∈ sections, ¬ ClosesEarly s.code := by
  induction sections with
  | nil => exact ⟨fun _ s hs => (nomatch hs), fun _ => rfl⟩
  | cons s rest ih =>
      obtain ⟨hprose, hrest⟩ := List.forall_mem_cons.mp h
      rw [List.flatMap_cons, List.map_cons, List.forall_mem_cons]
      by_cases hearly : ClosesEarly s.code
      · obtain ⟨content, more, hblocks, hcontent⟩ :=
          Section.blocksFrom_of_closesEarly hprose (rest.flatMap Section.toList) hearly
        rw [hblocks]
        exact ⟨fun heq => absurd (List.cons.inj heq).1 hcontent, fun hall => absurd hearly hall.1⟩
      · rw [Section.blocksFrom_of_not_closesEarly hprose _ hearly, ← ih hrest]
        exact ⟨fun heq => ⟨hearly, (List.cons.inj heq).2⟩, fun hall => by rw [hall.2]⟩

/-! ## Components -/

def TicklessText (s : String) : Prop := tick ∉ s.toList

instance (s : String) : Decidable (TicklessText s) := inferInstanceAs (Decidable (tick ∉ s.toList))

/-- The texts around the codes of a component hold no backtick. -/
structure TicklessTexts (component : FolderOptions) : Prop where
  title : TicklessText component.title
  description : ∀ s ∈ component.metadata.description, TicklessText s
  readme : ∀ s ∈ component.metadata.readme, TicklessText s
  alt : ∀ entry ∈ component.props, ∀ s ∈ entry.options.alt, TicklessText s
  entryReadme : ∀ entry ∈ component.props, ∀ s ∈ entry.options.readme, TicklessText s

def codes (component : FolderOptions) : List String :=
  component.component.code :: component.props.map PropsEntry.displayCode

def entryAlt : Option String → String
  | some alt => "**" ++ trimmed alt ++ "**\n\n"
  | none => ""

def componentSection (component : FolderOptions) : Section where
  prose := ("## " ++ component.title ++ "\n\n" ++ paragraph component.metadata.description ++
    paragraph component.metadata.readme).toList
  language := component.language
  code := component.component.code

def entrySection (language : Language) (entry : PropsEntry) : Section where
  prose := (entryAlt entry.options.alt ++ paragraph entry.options.readme).toList
  language
  code := entry.displayCode

def sections (component : FolderOptions) : List Section :=
  componentSection component :: component.props.map (entrySection component.language)

theorem map_code_sections (component : FolderOptions) :
    (sections component).map Section.code = codes component := by
  simp [sections, codes, componentSection, entrySection, Function.comp_def]

theorem toList_componentMarkdown (component : FolderOptions) :
    (componentMarkdown component).toList = (sections component).flatMap Section.toList := by
  have hentry : (fun entry => (entryMarkdown (fenceLanguage component.language) entry).toList) =
      fun entry => (entrySection component.language entry).toList := by
    funext entry
    rw [entryMarkdown, entrySection, Section.toList, String.toList_append]
    rfl
  rw [componentMarkdown, sections, List.flatMap_cons, List.flatMap_map, ← hentry]
  simp [componentSection, Section.toList, String.toList_join, List.flatMap_map]

theorem TicklessText.trimmed {s : String} (h : TicklessText s) : TicklessText (trimmed s) := by
  intro htick
  rw [Text.trimmed, String.toList_ofList, trimBack, List.mem_reverse] at htick
  have hfront : tick ∈ trimFront s.toList :=
    List.mem_reverse.mp ((List.dropWhile_suffix _).subset htick)
  exact h ((List.dropWhile_suffix _).subset hfront)

/-- A text that is followed by an empty line. -/
theorem prose_spaced {cs : List Char} (h : tick ∉ cs) : Prose (cs ++ ['\n', '\n']) := by
  have hspaced := (Prose.line h).append (Prose.line List.not_mem_nil)
  simpa using hspaced

theorem prose_paragraph {text : Option String} (h : ∀ s ∈ text, TicklessText s) :
    Prose (paragraph text).toList := by
  cases text with
  | none => exact .nil
  | some s =>
      have hprose := prose_spaced (h s rfl).trimmed
      rw [paragraph, String.toList_append]
      exact hprose

theorem prose_entryAlt {alt : Option String} (h : ∀ s ∈ alt, TicklessText s) :
    Prose (entryAlt alt).toList := by
  cases alt with
  | none => exact .nil
  | some s =>
      have htick : tick ∉ "**".toList ++ (trimmed s).toList ++ "**".toList := by
        have hstars : tick ∉ "**".toList := by decide +kernel
        simp only [List.mem_append, not_or]
        exact ⟨⟨hstars, (h s rfl).trimmed⟩, hstars⟩
      have hprose := prose_spaced htick
      simpa [entryAlt] using hprose

theorem prose_of_mem_sections {component : FolderOptions} (h : TicklessTexts component) :
    ∀ s ∈ sections component, Prose s.prose := by
  rw [sections, List.forall_mem_cons, List.forall_mem_map]
  constructor
  · have htick : tick ∉ "## ".toList ++ component.title.toList := by
      have hmarks : tick ∉ "## ".toList := by decide +kernel
      rw [List.mem_append, not_or]
      exact ⟨hmarks, h.title⟩
    have hprose := ((prose_spaced htick).append (prose_paragraph h.description)).append
      (prose_paragraph h.readme)
    simpa [componentSection] using hprose
  · intro entry hentry
    have hprose := (prose_entryAlt (h.alt entry hentry)).append
      (prose_paragraph (h.entryReadme entry hentry))
    simpa [entrySection] using hprose

/-- The code blocks of a written component are its codes just when no line of them looks like the
end of a block. -/
theorem blocks_componentMarkdown {component : FolderOptions} (h : TicklessTexts component) :
    blocks (componentMarkdown component) = (codes component).map trimmedBack ↔
      ∀ code ∈ codes component, ¬ ClosesEarly code := by
  have hsections := blocksFrom_sections (prose_of_mem_sections h)
  rw [blocks, toList_componentMarkdown, ← map_code_sections, List.map_map, List.forall_mem_map]
  exact hsections

namespace Sample

def entry (code : String) (alt : Option String) : PropsEntry :=
  ⟨0, code, none, ⟨alt, none, none⟩⟩

def component (code : String) (props : List PropsEntry) : FolderOptions where
  name := "button"
  folder := "./button"
  configPath := "./button/readme.js"
  language := .js
  component := ⟨code, .inline, ⟨"./button/readme.js", 1, 31⟩⟩
  props
  metadata := ⟨some "Button", some "What is clicked.", none, none⟩

/-- A component with backticks in its code and in the code of its entry. -/
def button : FolderOptions :=
  component "(p) =>\n  \x60<b>\x60 + p.text\n" [entry "\x7b text: \x60Save\x60 \x7d" (some "Short")]

/-- A component with an example in a comment. -/
def documented : FolderOptions :=
  component "(p) =>\n/*\n\x60\x60\x60\n<Button />\n\x60\x60\x60\n*/\n  p.text" []

theorem tickless_heading (code : String) (props : List PropsEntry) :
    TicklessText (component code props).title :=
  (by decide +kernel : TicklessText "Button")

theorem tickless_description : ∀ s ∈ some "What is clicked.", TicklessText s := by
  rintro s ⟨rfl⟩
  decide +kernel

theorem button_tickless : TicklessTexts button where
  title := tickless_heading _ _
  description := tickless_description
  readme := nofun
  alt := by
    rintro entry (_ | ⟨_, ⟨⟩⟩) s ⟨rfl⟩
    decide +kernel
  entryReadme := by
    rintro entry (_ | ⟨_, ⟨⟩⟩) s ⟨⟩

theorem documented_tickless : TicklessTexts documented where
  title := tickless_heading _ _
  description := tickless_description
  readme := nofun
  alt := nofun
  entryReadme := nofun

end Sample

open Sample in
theorem blocks_componentMarkdown_button :
    TicklessTexts button ∧ (∀ code ∈ codes button, ¬ ClosesEarly code) ∧
      blocks (componentMarkdown button) =
        ["(p) =>\n  \x60<b>\x60 + p.text", "\x7b text: \x60Save\x60 \x7d"] := by
  have hcodes : ∀ code ∈ codes button, ¬ ClosesEarly code := by decide +kernel
  have htrimmed : (codes button).map trimmedBack =
      ["(p) =>\n  \x60<b>\x60 + p.text", "\x7b text: \x60Save\x60 \x7d"] := by decide +kernel
  exact ⟨button_tickless, hcodes,
    ((blocks_componentMarkdown button_tickless).mpr hcodes).trans htrimmed⟩

open Sample in
/-- The example in a comment ends the block of the code, and what follows is read as another. -/
theorem exists_codes_not_read_back :
    TicklessTexts documented ∧
      codes documented = ["(p) =>\n/*\n\x60\x60\x60\n<Button />\n\x60\x60\x60\n*/\n  p.text"] ∧
      blocks (componentMarkdown documented) = ["(p) =>\n/*", "*/\n  p.text"] ∧
      blocks (componentMarkdown documented) ≠ (codes documented).map trimmedBack := by
  have hblocks : blocks (componentMarkdown documented) = ["(p) =>\n/*", "*/\n  p.text"] := by
    decide +kernel
  refine ⟨documented_tickless, rfl, hblocks, ?_⟩
  rw [hblocks]
  exact fun h => nomatch (List.cons.inj h).2

end Report

end Showcase
