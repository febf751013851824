import Mathlib.Tactic.SplitIfs
import Showcase.Proofs.Text.Decoding
import Showcase.Report.Csv

namespace Showcase.Report

/-!
# Reading records back

A reader of comma-separated values goes through a text one character after the other.  A field
in quotes ends at a quote that no second one follows, any other field at a comma or at the end
of its line, and there is no record without the end of its line.  Records of one length are always
written, and whatever their fields hold, the reader finds the records that a document was
written from.
-/

namespace Csv

/-! ## The reader -/

/-- How far a field has been read. -/
inductive Stage where
  | fresh
  | bare
  | quoted
  /-- Behind a quote in a quoted field: its end, or the first of two quotes. -/
  | closed
deriving DecidableEq

/-- The records that are complete, the fields of the next one that are complete, and what there is
of the next field. -/
structure Reading where
  records : List (List String)
  fields : List String
  field : List Char
  stage : Stage
deriving DecidableEq

namespace Reading

def start : Reading := ⟨[], [], [], .fresh⟩

def put (reading : Reading) (stage : Stage) (c : Char) : Reading :=
  { reading with field := reading.field ++ [c], stage }

def endField (reading : Reading) : Reading :=
  ⟨reading.records, reading.fields ++ [String.ofList reading.field], [], .fresh⟩

def endRecord (reading : Reading) : Reading :=
  ⟨reading.records ++ [reading.fields ++ [String.ofList reading.field]], [], [], .fresh⟩

/-- Takes one more character, unless no record goes on like this. -/
def next? (reading : Reading) (c : Char) : Option Reading :=
  if reading.stage = .quoted then
    some (if c = '"' then { reading with stage := .closed } else reading.put .quoted c)
  else if c = ',' then some reading.endField
  else if c = '\n' then some reading.endRecord
  else if c = '"' then
    match reading.stage with
    | .fresh => some { reading with stage := .quoted }
    | .closed => some (reading.put .quoted c)
    | _ => none
  else if c = '\r' ∨ reading.stage = .closed then none
  else some (reading.put .bare c)

end Reading

/-- The records of a text, each of which ends with its line. -/
def read? (text : String) : Option (List (List String)) := do
  let reading ← text.toList.foldlM Reading.next? Reading.start
  if reading = ⟨reading.records, [], [], .fresh⟩ then some reading.records else none

/-! ## Fields -/

/-- From one point of a text to another behind some characters. -/
def Reads (cs : List Char) (before after : Reading) : Prop :=
  cs.foldlM Reading.next? before = some after

theorem Reads.nil (reading : Reading) : Reads [] reading reading := rfl

theorem Reads.single {c : Char} {before after : Reading} (h : before.next? c = some after) :
    Reads [c] before after := by
  simp [Reads, h]

theorem Reads.append {cs ds : List Char} {before between after : Reading}
    (hcs : Reads cs before between) (hds : Reads ds between after) :
    Reads (cs ++ ds) before after := by
  unfold Reads at hcs hds ⊢
  rw [List.foldlM_append, hcs]
  exact hds

theorem Reads.cons {c : Char} {cs : List Char} {before between after : Reading}
    (h : before.next? c = some between) (hcs : Reads cs between after) :
    Reads (c :: cs) before after :=
  (Reads.single h).append hcs

section Field

variable (records : List (List String)) (fields : List String)

theorem reads_bare {cs : List Char} (hcs : ∀ c ∈ cs, isSpecial c = false) (before : List Char)
    {stage : Stage} (hstage : stage = .fresh ∨ stage = .bare) :
    ∃ stage', (stage' = .fresh ∨ stage' = .bare) ∧
      Reads cs ⟨records, fields, before, stage⟩ ⟨records, fields, before ++ cs, stage'⟩ := by
  induction cs generalizing before stage with
  | nil =>
      rw [List.append_nil]
      exact ⟨stage, hstage, .nil _⟩
  | cons c cs ih =>
      obtain ⟨hc, hcs⟩ := List.forall_mem_cons.mp hcs
      have hnext : Reading.next? ⟨records, fields, before, stage⟩ c =
          some ⟨records, fields, before ++ [c], .bare⟩ := by
        simp only [isSpecial, Bool.or_eq_false_iff, decide_eq_false_iff_not] at hc
        obtain ⟨⟨⟨hcomma, hquote⟩, hfeed⟩, hreturn⟩ := hc
        rcases hstage with rfl | rfl <;>
          simp [Reading.next?, Reading.put, hcomma, hquote, hfeed, hreturn]
      obtain ⟨stage', hstage', hreads⟩ := ih hcs (before ++ [c]) (.inr rfl)
      rw [List.append_assoc, List.singleton_append] at hreads
      exact ⟨stage', hstage', .cons hnext hreads⟩

theorem reads_doubled (cs before : List Char) :
    Reads (cs.flatMap fun c => if c = '"' then ['"', '"'] else [c])
      ⟨records, fields, before, .quoted⟩ ⟨records, fields, before ++ cs, .quoted⟩ := by
  induction cs generalizing before with
  | nil =>
      rw [List.append_nil]
      exact .nil _
  | cons c cs ih =>
      have hrest := ih (before ++ [c])
      rw [List.append_assoc, List.singleton_append] at hrest
      rw [List.flatMap_cons]
      refine Reads.append ?_ hrest
      split_ifs with hquote
      · subst hquote
        exact rfl
      · refine .single ?_
        simp [Reading.next?, Reading.put, hquote]

/-- A field is read up to its end, which the next character tells. -/
theorem reads_field (text : String) :
    ∃ stage, stage ≠ .quoted ∧
      Reads (field text) ⟨records, fields, [], .fresh⟩ ⟨records, fields, text.toList, stage⟩ := by
  unfold field
  split_ifs with hspecial
  · have hopen : Reading.next? ⟨records, fields, [], .fresh⟩ '"' =
        some ⟨records, fields, [], .quoted⟩ := rfl
    have hclose : Reads ['"'] ⟨records, fields, text.toList, .quoted⟩
        ⟨records, fields, text.toList, .closed⟩ := rfl
    have hbody := reads_doubled records fields text.toList []
    exact ⟨.closed, nofun, .cons hopen (hbody.append hclose)⟩
  · have hbare : ∀ c ∈ text.toList, isSpecial c = false := by
      intro c hc
      rw [Bool.not_eq_true, List.any_eq_false] at hspecial
      exact Bool.eq_false_iff.mpr (hspecial c hc)
    obtain ⟨stage, hstage, hreads⟩ := reads_bare records fields hbare [] (.inl rfl)
    refine ⟨stage, ?_, hreads⟩
    rcases hstage with rfl | rfl <;> exact nofun

/-! ## Records -/

theorem record_singleton (text : String) : record [text] = field text ++ ['\n'] := by
  simp [record]

theorem record_cons_cons (text next : String) (rest : List String) :
    record (text :: next :: rest) = field text ++ ',' :: record (next :: rest) := by
  simp [record]

theorem reads_record (text : String) (rest : List String) :
    Reads (record (text :: rest)) ⟨records, fields, [], .fresh⟩
      ⟨records ++ [fields ++ text :: rest], [], [], .fresh⟩ := by
  induction rest generalizing fields text with
  | nil =>
      obtain ⟨stage, hstage, hfield⟩ := reads_field records fields text
      have hend : Reading.next? ⟨records, fields, text.toList, stage⟩ '\n' =
          some ⟨records ++ [fields ++ [text]], [], [], .fresh⟩ := by
        simp [Reading.next?, Reading.endRecord, hstage]
      rw [record_singleton]
      exact hfield.append (.single hend)
  | cons next rest ih =>
      obtain ⟨stage, hstage, hfield⟩ := reads_field records fields text
      have hend : Reading.next? ⟨records, fields, text.toList, stage⟩ ',' =
          some ⟨records, fields ++ [text], [], .fresh⟩ := by
        simp [Reading.next?, Reading.endField, hstage]
      have hrest := ih (fields ++ [text]) next
      rw [List.append_assoc, List.singleton_append] at hrest
      rw [record_cons_cons]
      exact hfield.append (.cons hend hrest)

end Field

theorem reads_records {rows : List (List String)} (hrows : ∀ row ∈ rows, row ≠ [])
    (records : List (List String)) :
    Reads (rows.flatMap record) ⟨records, [], [], .fresh⟩ ⟨records ++ rows, [], [], .fresh⟩ := by
  induction rows generalizing records with
  | nil =>
      rw [List.append_nil]
      exact .nil _
  | cons row rows ih =>
      obtain ⟨hrow, hother⟩ := List.forall_mem_cons.mp hrows
      obtain ⟨text, rest, rfl⟩ := List.exists_cons_of_ne_nil hrow
      have hrecord := reads_record records [] text rest
      have hrest := ih hother (records ++ [text :: rest])
      rw [List.append_assoc, List.singleton_append] at hrest
      exact hrecord.append hrest

/-! ## Documents -/

theorem lines_eq_ok_iff {width : Nat} {rows : List (List String)} {cs : List Char} :
    lines width rows = .ok cs ↔ (∀ row ∈ rows, row.length = width) ∧ cs = rows.flatMap record := by
  induction rows generalizing cs with
  | nil => simp [lines, eq_comm]
  | cons row rows ih =>
      rw [lines, List.forall_mem_cons, List.flatMap_cons]
      constructor
      · intro h
        split_ifs at h with hrow
        obtain ⟨rest, hrest, rfl⟩ := exists_of_map_eq_ok h
        obtain ⟨hrows, rfl⟩ := ih.mp hrest
        exact ⟨⟨hrow, hrows⟩, rfl⟩
      · rintro ⟨⟨hrow, hrows⟩, rfl⟩
        rw [if_pos hrow, ih.mpr ⟨hrows, rfl⟩]
        rfl

/-- Just records of one length have a text, and it is made of theirs. -/
theorem document_eq_ok_iff {rows : List (List String)} {text : String} :
    document rows = .ok text ↔
      (∀ row ∈ rows, row.length = (rows.headD []).length) ∧
        text = String.ofList (rows.flatMap record) := by
  have hdecode (cs : List Char) : Text.decode (Text.encode cs) = .ok (String.ofList cs) :=
    Text.decode_eq_ok_iff.mpr (by rw [String.toList_ofList])
  unfold document
  constructor
  · intro h
    split at h
    · cases h
    · rename_i cs hlines
      obtain ⟨hrows, rfl⟩ := lines_eq_ok_iff.mp hlines
      rw [hdecode] at h
      exact ⟨hrows, (Except.ok.inj h).symm⟩
  · rintro ⟨hrows, rfl⟩
    rw [lines_eq_ok_iff.mpr ⟨hrows, rfl⟩]
    simp only [hdecode]

/-- Records with a field at least are read back from the document that is written of them. -/
theorem read?_of_document {rows : List (List String)} {text : String}
    (hrows : ∀ row ∈ rows, row ≠ []) (h : document rows = .ok text) : read? text = some rows := by
  obtain ⟨-, rfl⟩ := document_eq_ok_iff.mp h
  have hreads : (rows.flatMap record).foldlM Reading.next? Reading.start =
      some ⟨rows, [], [], .fresh⟩ := reads_records hrows []
  rw [read?, String.toList_ofList, hreads]
  exact if_pos rfl

example : read? "a,\"b,\"\"c\"\"\r\n\"\n,\n" = some [["a", "b,\"c\"\r\n"], ["", ""]] := by
  decide +kernel

example : read? "a\"b\n" = none ∧ read? "\"a\"b\n" = none ∧ read? "a" = none := by
  decide +kernel

end Csv

/-! ## Results -/

/-- The header and the record of each component have as many fields. -/
theorem length_eq_nine {results : Results} :
    ∀ row ∈ csvHeader :: results.components.map csvRecord, row.length = 9 := by
  intro row hrow
  rcases List.mem_cons.mp hrow with rfl | hrow
  · rfl
  · obtain ⟨component, -, rfl⟩ := List.mem_map.mp hrow
    rfl

theorem exists_csv (results : Results) : ∃ text, csv results = .ok text :=
  ⟨_, Csv.document_eq_ok_iff.mpr ⟨length_eq_nine, rfl⟩⟩

/-- Reading the comma-separated values of results yields a header and a record for each component,
of nine fields each, which hold what the component has. -/
theorem read?_csv (results : Results) :
    ∃ text rows, csv results = .ok text ∧ Csv.read? text = some rows ∧
      rows = ["name", "title", "folder", "config_path", "language", "component_source",
          "component_line", "component_column", "props_entries"] ::
        results.components.map (fun component =>
          [component.name, component.metadata.title.getD component.name,
            Path.shown component.folder, Path.shown component.configPath,
            component.language.extension,
            component.component.source.display, toString component.component.location.line,
            toString component.component.location.column, toString component.props.length]) ∧
      rows.length = 1 + results.components.length ∧ ∀ row ∈ rows, row.length = 9 := by
  have hrows : ∀ row ∈ csvHeader :: results.components.map csvRecord, row ≠ [] := by
    rintro row hrow rfl
    exact absurd (length_eq_nine [] hrow) (by decide)
  obtain ⟨text, htext⟩ := exists_csv results
  refine ⟨text, _, htext, Csv.read?_of_document hrows htext, rfl, ?_, length_eq_nine⟩
  rw [List.length_cons, List.length_map, Nat.add_comm]

end Showcase.Report
