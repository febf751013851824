import Showcase.Proofs.Reading.Findings

namespace Showcase

open Script

/-!
# The calls on a description

Five calls read a description, and each looks for the exported object by itself.  Still they
agree: what keeps one of them from answering keeps the others from it, and the call for
everything at once answers what the calls for its parts answer.
-/

/-- Only a single candidate is the exported object. -/
theorem ExportSearch.ofCandidates_of_ne {objects : List ObjectLiteral}
    (h : ∀ object, objects ≠ [object]) :
    ofCandidates objects = .notDefinitive objects.length := by
  unfold ofCandidates
  split
  · rename_i object
    exact absurd rfl (h object)
  · rfl

namespace Source

/-- The calls that need an exported object end with a failure. -/
structure Refused (source : Source) (fault : Fault) : Prop where
  component : source.component = .error fault
  props : ∀ sub, source.props sub = .error fault
  entries : source.entries = .error fault
  extract : source.extract = .error fault

/-- Every call answers with its part of `extracted`, and `notices` are told. -/
structure Answers (source : Source) (extracted : Extracted) (notices : List Notice) : Prop where
  extract : source.extract = .ok (extracted, notices)
  component : source.component = .ok (extracted.component, notices)
  entries : source.entries = .ok extracted.props
  props : ∀ sub, ∃ text, source.props sub = .ok text ∧ text.isSome = extracted.props.isSome
  staticConfig : source.staticConfig = .ok (some extracted.config)

variable {source : Source} {program : Program} {object : ObjectLiteral} {scope : Scope}

/-- What a description says, given the object that it exports. -/
def extracted (source : Source) (object : ObjectLiteral) (scope : Scope) : Extracted :=
  { component := (object.reading scope source.code).component.map source.snippet
    props := (object.reading scope source.code).entries
    config := (object.reading scope source.code).config }

theorem extract_eq_extracted (h : source.exported = .ok (object, scope)) :
    source.extract = .ok (source.extracted object scope,
      source.importNotices (object.scan (some scope))) := by
  unfold extract
  rw [h]
  rfl

theorem isSome_text_reading (object : ObjectLiteral) (scope : Scope) (code : String)
    (sub : Option String) :
    ((object.reading scope code).text sub).isSome =
      (object.reading scope code).entries.isSome := by
  simp [ObjectLiteral.reading]

theorem refused_of_exported {fault : Fault} (h : source.exported = .error fault) :
    source.Refused fault := by
  constructor
  · unfold component
    rw [h]
    rfl
  · intro sub
    unfold props
    rw [h]
    rfl
  · unfold entries
    rw [h]
    rfl
  · unfold extract
    rw [h]
    rfl

/-! ## From a text to its exported object -/

theorem parse_of_problems {problems : List Diagnostic}
    (h : Program.parse source.language.dialect source.code = .error problems) :
    source.parse = .error (.unparsed source.path (problems.map Diagnostic.message)) := by
  unfold parse
  rw [h]

theorem parse_of_program (h : Program.parse source.language.dialect source.code = .ok program) :
    source.parse = .ok program := by
  unfold parse
  rw [h]

theorem exported_of_definitive (hparse : source.parse = .ok program)
    (hsearch : source.findExport program = .definitive object) :
    source.exported = .ok (object, .ofProgram program) := by
  simp only [exported, hparse, bind, Except.bind, hsearch]
  rfl

theorem exported_of_notDefinitive {candidates : Nat} (hparse : source.parse = .ok program)
    (hsearch : source.findExport program = .notDefinitive candidates) :
    source.exported = .error (.ambiguousExport source.path candidates) := by
  simp only [exported, hparse, bind, Except.bind, hsearch]
  rfl

theorem staticConfig_of_parse (hparse : source.parse = .ok program) :
    source.staticConfig = .ok ((source.findExport program).object?.map
      (·.staticValue (some (.ofProgram program)))) := by
  simp only [staticConfig, hparse, bind, Except.bind]
  rfl

/-- Where one object is exported, all calls read that object. -/
theorem answers_of_definitive (hparse : source.parse = .ok program)
    (hsearch : source.findExport program = .definitive object) :
    ∃ extracted notices, source.Answers extracted notices := by
  have hexported : source.exported = .ok (object, .ofProgram program) :=
    exported_of_definitive hparse hsearch
  refine ⟨_, _, ⟨extract_eq_extracted hexported, component_eq_reading hexported,
    entries_eq_reading hexported, ?_, ?_⟩⟩
  · intro sub
    exact ⟨_, props_eq_reading hexported sub, isSome_text_reading _ _ _ sub⟩
  · rw [staticConfig_of_parse hparse, hsearch]
    rfl

/-- A text that cannot be read, or that does not export exactly one object, is refused by
every call for the same reason; only the call for the static members passes over a text that
exports nothing definite.  Otherwise the call for everything answers what the others do. -/
theorem calls_agree (source : Source) :
    match Program.parse source.language.dialect source.code with
    | .error problems =>
      source.Refused (.unparsed source.path (problems.map Diagnostic.message)) ∧
        source.staticConfig = .error (.unparsed source.path (problems.map Diagnostic.message))
    | .ok program =>
      match program.exportCandidates (.forLanguage source.language) (some (.ofProgram program)) with
      | [_] => ∃ extracted notices, source.Answers extracted notices
      | candidates =>
        source.Refused (.ambiguousExport source.path candidates.length) ∧
          source.staticConfig = .ok none := by
  cases hprogram : Program.parse source.language.dialect source.code with
  | error problems =>
      have hparse := parse_of_problems hprogram
      constructor
      · apply refused_of_exported
        simp only [exported, hparse, bind, Except.bind]
      · simp only [staticConfig, hparse, bind, Except.bind]
  | ok program =>
      have hparse := parse_of_program hprogram
      -- The search is definitive exactly for a list of one candidate.
      dsimp only
      split
      · rename_i object hone
        apply answers_of_definitive hparse
        rw [findExport, Program.findExport, hone]
        rfl
      · rename_i candidates hmany
        have hsearch := ExportSearch.ofCandidates_of_ne hmany
        refine ⟨refused_of_exported (exported_of_notDefinitive hparse hsearch), ?_⟩
        rw [staticConfig_of_parse hparse, findExport, Program.findExport, hsearch]
        rfl

end Source

end Showcase
