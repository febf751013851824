import Showcase.Reading.Extraction

namespace Showcase

open Script

/-! # What a program says

Everything that is read off a program for one style of export, put together from the
readers of the exported object.  Two programs say the same when their findings agree.
-/

/-- What the exported object says, given the scope around it and the source text. -/
structure Reading where
  component : Option ComponentMatch
  unresolved : List UnresolvedComponent
  /-- The text of the props, or of their members with a name. -/
  text : Option String → Option PropsText
  entries : Option (List RawEntry)
  config : Json

def ObjectLiteral.reading (object : ObjectLiteral) (scope : Scope) (code : String) : Reading :=
  let scan := object.scan (some scope)
  { component := scan.component
    unresolved := scan.unresolved
    text := fun sub => scan.props.map (·.text code (some scope) sub)
    entries := scan.props.map (·.entries code (some scope))
    config := object.staticValue (some scope) }

/-- The outcome of the search for the exported object, and what that object says. -/
structure Findings where
  search : ExportSearch
  reading : Option Reading

namespace Script.Program

/-- The findings of a program whose names are looked up in `scope`. -/
def findingsIn (program : Program) (scope : Scope) (style : ExportStyle) (code : String) :
    Findings :=
  let search := program.findExport style (some scope)
  ⟨search, search.object?.map (·.reading scope code)⟩

def findings (program : Program) (style : ExportStyle) (code : String) : Findings :=
  program.findingsIn (.ofProgram program) style code

end Script.Program

namespace Source

variable {source : Source} {object : ObjectLiteral} {scope : Scope}

/-! Each call on a description gives a part of one reading. -/

theorem component_eq_reading (h : source.exported = .ok (object, scope)) :
    source.component = .ok ((object.reading scope source.code).component.map source.snippet,
      source.importNotices (object.scan (some scope))) := by
  unfold component
  rw [h]
  rfl

theorem props_eq_reading (h : source.exported = .ok (object, scope)) (sub : Option String) :
    source.props sub = .ok ((object.reading scope source.code).text sub) := by
  unfold props
  rw [h]
  rfl

theorem entries_eq_reading (h : source.exported = .ok (object, scope)) :
    source.entries = .ok (object.reading scope source.code).entries := by
  unfold entries
  rw [h]
  rfl

end Source

/-! ## The scope of a program -/

namespace Scope

theorem get?_insert (scope : Scope) (b : Binding) (x : String) :
    (scope.insert b).get? x =
      (scope.get? x).or (if b.name.name == x then some b else none) := by
  unfold insert
  cases hb : scope.get? b.name.name with
  | none => simp [get?, List.find?_append, List.find?_cons]; split <;> simp_all
  | some c =>
      by_cases hx : b.name.name = x
      · subst hx
        simp [hb]
      · simp [hx]

theorem get?_foldl_insert (bs : List Binding) (scope : Scope) (x : String) :
    (bs.foldl insert scope).get? x = (scope.get? x).or (bs.find? (·.name.name == x)) := by
  induction bs generalizing scope with
  | nil => simp
  | cons b bs ih =>
      rw [List.foldl_cons, ih, get?_insert, Option.or_assoc, List.find?_cons]
      cases b.name.name == x <;> simp

/-- The first binder of a name is the one that counts. -/
theorem get?_ofProgram (program : Program) (x : String) :
    (ofProgram program).get? x = program.bindings.find? (·.name.name == x) := by
  rw [ofProgram, get?_foldl_insert]
  simp [empty, get?]

end Scope

end Showcase
