import Showcase.Proofs.Collection.Faults
import Showcase.Proofs.Reading.Calls
import Showcase.Proofs.Reading.Columns
import Showcase.Proofs.Reading.Props

namespace Showcase

open Script

/-!
# The entries of a folder

The props value of a description has positions: the elements of an array, or one position for
any other value.  A folder that is loaded has one entry for each position, made from what
stands there and from nothing else.  A position that gives no entry keeps the folder from
being loaded, and of several such positions the first one is told.
-/

/-- What stands at a position of the props: the expression of the code and that of the
options. -/
structure PropsPosition where
  code : Option Expr
  options : Option Expr

/-- An element that is an array, or a name for one, is a pair of code and options. -/
def Script.Element.position (scope : Option Scope) (element : Element) : PropsPosition :=
  match element.expression? with
  | none => ⟨none, none⟩
  | some e =>
    match e.resolve scope with
    | some (.array _ halves) =>
      ⟨halves[0]?.bind Element.expression?, halves[1]?.bind Element.expression?⟩
    | _ => ⟨some e, none⟩

/-- The elements of an array, or the one position of any other value. -/
def Script.Expr.ownPositions (scope : Option Scope) : Expr → List PropsPosition
  | .array _ elements => elements.map (Element.position scope)
  | e => [⟨some e, none⟩]

/-- The positions of a props value, which may be a name.  A name without initial value is one
position with nothing on it. -/
def Script.Expr.positions (scope : Option Scope) (value : Expr) : List PropsPosition :=
  match value.resolve scope with
  | some e => e.ownPositions scope
  | none => [⟨none, none⟩]

/-- The positions of the props of an object, none without a member of that name. -/
def ObjectLiteral.positions (scope : Option Scope) (object : ObjectLiteral) :
    List PropsPosition :=
  match object.find? "props" with
  | some value => value.positions scope
  | none => []

namespace PropsPosition

def object? (scope : Option Scope) (p : PropsPosition) : Option ObjectLiteral :=
  p.code.bind (Expr.resolveObject scope)

/-- The object literal whose text is shown in place of the code. -/
def readme? (scope : Option Scope) (p : PropsPosition) : Option ObjectLiteral :=
  (p.options.bind (Expr.resolveObject scope)).bind fun options =>
    (options.find? "props").bind (Expr.resolveObject scope)

def static? (scope : Option Scope) (p : PropsPosition) : Option Json :=
  p.options.bind (Expr.staticValue scope)

/-- Why a position of the props in the description at `path` gives no entry. -/
inductive Fails (scope : Option Scope) (path : String) (p : PropsPosition) : Fault → Prop
  | code (hcode : p.object? scope = none) : Fails scope path p (.missingMember .props path)
  | options {object : ObjectLiteral} {value : Json} {fault : ShapeFault}
      (hcode : p.object? scope = some object) (hvalue : p.static? scope = some value)
      (hfault : EntryOptions.ofJson value = .error fault) :
      Fails scope path p (.invalidOptions .props path fault.message)

end PropsPosition

/-- An entry is made from position `i`. -/
structure PropsEntry.Shows (entry : PropsEntry) (source : String) (scope : Option Scope) (i : Nat)
    (p : PropsPosition) : Prop where
  index : entry.index = i
  code : ∃ object, p.object? scope = some object ∧ entry.code = object.span.text source
  readmeCode : entry.readmeCode = (p.readme? scope).map (·.span.text source)
  options : match p.static? scope with
    | none => entry.options = .empty
    | some value => EntryOptions.ofJson value = .ok entry.options

/-! ## Reading the positions -/

namespace PropsPosition

def raw (source : String) (scope : Option Scope) (p : PropsPosition) : RawEntry :=
  ⟨(p.object? scope).map (·.span.text source), (p.readme? scope).map (·.span.text source),
    p.static? scope⟩

end PropsPosition

section Reading

variable (source : String) (scope : Option Scope)

theorem objectText_none (e : Expr) :
    objectText source scope none e = (e.resolveObject scope).map (·.span.text source) := by
  unfold objectText
  cases e.resolveObject scope <;> rfl

theorem objectText_some (name : String) (e : Expr) :
    objectText source scope (some name) e =
      ((e.resolveObject scope).bind fun object =>
        (object.find? name).bind (Expr.resolveObject scope)).map (·.span.text source) := by
  unfold objectText
  cases e.resolveObject scope with
  | none => rfl
  | some object =>
      simp only [Option.bind_eq_bind, Option.bind_some]
      cases (object.find? name).bind (Expr.resolveObject scope) <;> rfl

theorem entry_plain (e : Expr) :
    (PropsElement.plain e).entry source scope =
      PropsPosition.raw source scope ⟨some e, none⟩ := by
  simp [PropsElement.entry, PropsElement.text, PropsPosition.raw, PropsPosition.object?,
    PropsPosition.readme?, PropsPosition.static?, objectText_none]

theorem entry_tuple (code options : Option Expr) :
    (PropsElement.tuple code options).entry source scope =
      PropsPosition.raw source scope ⟨code, options⟩ := by
  cases code <;> cases options <;>
    simp [PropsElement.entry, PropsElement.text, PropsPosition.raw, PropsPosition.object?,
      PropsPosition.readme?, PropsPosition.static?, objectText_none, objectText_some]

theorem entry_ofExpr (e : Expr) :
    (PropsElement.ofExpr scope e).entry source scope =
      ((Element.item e).position scope).raw source scope := by
  have hplain := entry_plain source scope e
  unfold PropsElement.ofExpr Element.position
  cases hresolve : e.resolve scope with
  | none => simpa only [Element.expression?, hresolve] using hplain
  | some target =>
      cases target with
      | array span halves =>
          have htuple := entry_tuple source scope (halves[0]?.bind Element.expression?)
            (halves[1]?.bind Element.expression?)
          simpa only [Element.expression?, hresolve] using htuple
      | _ => simpa only [Element.expression?, hresolve] using hplain

theorem entry_position (element : Element) :
    element.entry source scope = (element.position scope).raw source scope := by
  cases element with
  | item e => exact entry_ofExpr source scope e
  | spread span e | hole span => rfl

theorem entries_expression {e : Expr} (he : e.peel = e) :
    (PropsMatch.expression e).entries source scope =
      (e.ownPositions scope).map (·.raw source scope) := by
  unfold PropsMatch.entries
  simp only [he]
  cases e with
  | array span elements =>
      simp only [Expr.ownPositions, List.map_map]
      exact List.map_congr_left fun element _ => entry_position source scope element
  | _ =>
      simp [Expr.ownPositions, PropsPosition.raw, PropsPosition.object?, PropsPosition.readme?,
        PropsPosition.static?, objectText_none]

theorem initializer?_eq_lookupIn (name : String) :
    (scope.bind (·.initializer? name)) =
      match lookupIn scope name with
      | .initializer e => some e
      | _ => none := by
  cases scope <;> rfl

theorem entries_ofValue (value : Expr) :
    (PropsMatch.ofValue scope value).entries source scope =
      (value.positions scope).map (·.raw source scope) := by
  unfold PropsMatch.ofValue Expr.positions Expr.resolve
  cases hvalue : value.peel with
  | identifier id =>
      simp only [initializer?_eq_lookupIn]
      cases lookupIn scope id.name with
      | initializer e =>
          exact entries_expression source scope e.peel_peel
      | noInitializer binding => rfl
      | undeclared => rfl
  | wrapped span w inner => exact absurd hvalue (Expr.peel_ne_wrapped value span w inner)
  | _ => exact entries_expression source scope rfl

end Reading

/-- The entries that are read are those of the positions. -/
theorem Source.getD_props_extracted (source : Source) (object : ObjectLiteral) (scope : Scope) :
    (source.extracted object scope).props.getD [] =
      (object.positions (some scope)).map (·.raw source.code (some scope)) := by
  rw [extracted, ObjectLiteral.reading]
  dsimp only
  rw [ObjectLiteral.scan_props, ObjectLiteral.positions]
  cases object.find? "props" with
  | none => rfl
  | some value => exact entries_ofValue source.code (some scope) value

/-! ## Taking the entries over -/

namespace PropsPosition

variable {scope : Option Scope} {path : String} {p : PropsPosition}

theorem not_fails {object : ObjectLiteral} (hcode : p.object? scope = some object)
    (hoptions : ∀ value, p.static? scope = some value →
      ∃ options, EntryOptions.ofJson value = .ok options) (fault : Fault) :
    ¬ p.Fails scope path fault := by
  intro hfails
  cases hfails with
  | code hnone =>
      rw [hcode] at hnone
      cases hnone
  | options _ hvalue hfault =>
      obtain ⟨options, hok⟩ := hoptions _ hvalue
      rw [hok] at hfault
      cases hfault

end PropsPosition

namespace Loader

section Taking

variable (source path : String) (scope : Option Scope)

/-- A position gives an entry or a failure, never both. -/
theorem entry_cases (index : Nat) (p : PropsPosition) :
    (∃ fault, p.Fails scope path fault ∧ entry path index (p.raw source scope) = .error fault) ∨
      ∃ e : PropsEntry, e.Shows source scope index p ∧
        entry path index (p.raw source scope) = .ok e ∧ ∀ fault, ¬ p.Fails scope path fault := by
  cases hcode : p.object? scope with
  | none => exact .inl ⟨_, .code hcode, by simp [entry, PropsPosition.raw, hcode]⟩
  | some object =>
      cases hvalue : p.static? scope with
      | none =>
          refine .inr ⟨⟨index, object.span.text source,
            (p.readme? scope).map (·.span.text source), .empty⟩, ?_, ?_, ?_⟩
          · exact ⟨rfl, ⟨object, hcode, rfl⟩, rfl, by rw [hvalue]⟩
          · simp [entry, options, PropsPosition.raw, hcode, hvalue]
          · exact PropsPosition.not_fails hcode fun value hsome => by
              rw [hvalue] at hsome
              cases hsome
      | some value =>
          cases hshape : EntryOptions.ofJson value with
          | error fault =>
              exact .inl ⟨_, .options hcode hvalue hshape, by
                simp [entry, options, PropsPosition.raw, hcode, hvalue, hshape]⟩
          | ok given =>
              refine .inr ⟨⟨index, object.span.text source,
                (p.readme? scope).map (·.span.text source), given⟩, ?_, ?_, ?_⟩
              · exact ⟨rfl, ⟨object, hcode, rfl⟩, rfl, by rw [hvalue]; exact hshape⟩
              · simp [entry, options, PropsPosition.raw, hcode, hvalue, hshape]
              · exact PropsPosition.not_fails hcode fun other hsome => by
                  rw [hvalue] at hsome
                  cases hsome
                  exact ⟨given, hshape⟩

theorem isOk_entry_iff (index : Nat) (p : PropsPosition) :
    (entry path index (p.raw source scope)).isOk = true ↔ ∀ fault, ¬ p.Fails scope path fault := by
  rcases entry_cases source path scope index p with
    ⟨fault, hfails, hentry⟩ | ⟨e, -, hentry, hfits⟩
  · rw [hentry]
    exact iff_of_false (fun h => nomatch h) fun h => h fault hfails
  · rw [hentry]
    exact iff_of_true rfl hfits

/-- Entries that are taken over are one for each position, in order. -/
theorem entriesFrom_shows {index : Nat} {positions : List PropsPosition}
    {entries : List PropsEntry}
    (h : entriesFrom path index (positions.map (·.raw source scope)) = .ok entries) :
    entries.length = positions.length ∧ ∀ (i : Nat) (p : PropsPosition),
      positions[i]? = some p →
        ∃ e : PropsEntry, entries[i]? = some e ∧ e.Shows source scope (index + i) p := by
  induction positions generalizing index entries with
  | nil =>
      cases h
      exact ⟨rfl, fun i p hp => nomatch hp⟩
  | cons first rest ih =>
      rw [List.map_cons, entriesFrom] at h
      rcases entry_cases source path scope index first with
        ⟨fault, -, hentry⟩ | ⟨e, hshows, hentry, -⟩
      · rw [hentry] at h
        cases h
      rw [hentry] at h
      dsimp only at h
      split at h
      · cases h
      · rename_i others hothers
        cases h
        obtain ⟨hlength, hrest⟩ := ih hothers
        refine ⟨by simp [hlength], ?_⟩
        intro i p hp
        cases i with
        | zero =>
            cases hp
            exact ⟨e, rfl, hshows⟩
        | succ i =>
            obtain ⟨other, hother, hother'⟩ := hrest i p hp
            refine ⟨other, hother, ?_⟩
            rwa [Nat.add_right_comm] at hother'

theorem exists_entriesFrom (index : Nat) {positions : List PropsPosition}
    (h : ∀ p ∈ positions, ∀ fault, ¬ p.Fails scope path fault) :
    ∃ entries, entriesFrom path index (positions.map (·.raw source scope)) = .ok entries := by
  induction positions generalizing index with
  | nil => exact ⟨[], rfl⟩
  | cons first rest ih =>
      have hfirst := (isOk_entry_iff source path scope index first).mpr (h first List.mem_cons_self)
      obtain ⟨e, hentry⟩ := exists_eq_ok_of_isOk hfirst
      obtain ⟨entries, hentries⟩ :=
        ih (index + 1) fun p hp => h p (List.mem_cons_of_mem first hp)
      refine ⟨e :: entries, ?_⟩
      simp only [List.map_cons, entriesFrom, hentry, hentries]

/-- Of several positions that give no entry the first one is told. -/
theorem entriesFrom_fails (index : Nat) {i : Nat} {positions : List PropsPosition}
    {p : PropsPosition} {fault : Fault} (hp : positions[i]? = some p)
    (hfails : p.Fails scope path fault) :
    ∃ j ≤ i, ∃ q first, positions[j]? = some q ∧ q.Fails scope path first ∧
      (∀ k < j, ∀ r, positions[k]? = some r → ∀ other, ¬ r.Fails scope path other) ∧
      entriesFrom path index (positions.map (·.raw source scope)) = .error first := by
  induction positions generalizing index i with
  | nil => cases hp
  | cons head rest ih =>
      rw [List.map_cons, entriesFrom]
      -- If the head fails it is the one that is told; otherwise `i` is further on.
      rcases entry_cases source path scope index head with
        ⟨first, hfirst, hentry⟩ | ⟨e, -, hentry, hfits⟩
      · refine ⟨0, Nat.zero_le i, head, first, rfl, hfirst, ?_, by rw [hentry]⟩
        intro k hk
        omega
      · cases i with
        | zero =>
            cases hp
            exact absurd hfails (hfits fault)
        | succ i =>
            obtain ⟨j, hj, q, first, hq, hfirst, hbefore, herror⟩ := ih (index + 1) hp
            refine ⟨j + 1, by omega, q, first, hq, hfirst, ?_, by rw [hentry, herror]⟩
            intro k hk r hr
            cases k with
            | zero =>
                cases hr
                exact hfits
            | succ k => exact hbefore k (by omega) r hr

end Taking

/-! ## Loading a folder -/

/-- The description of a folder is `source`, which exports `object`. -/
structure Describes (loader : Loader) (disk : Disk) (folder : String) (source : Source)
    (object : ObjectLiteral) (scope : Scope) : Prop where
  found : disk.source (Path.join folder loader.configName) loader.untypedOnly = .ok source
  exported : source.exported = .ok (object, scope)

section Loading

variable {loader : Loader} {disk : Disk} {folder : String}

theorem Describes.outcome_load {source : Source} {object : ObjectLiteral} {scope : Scope}
    (h : loader.Describes disk folder source object scope) :
    (loader.load disk folder).outcome =
      assemble folder source (source.extracted object scope) := by
  unfold load
  rw [h.found]
  dsimp only
  unfold ofSource
  rw [Source.extract_eq_extracted h.exported]

theorem exists_describes {loaded : FolderOptions}
    (h : (loader.load disk folder).outcome = .ok loaded) :
    ∃ source object scope, loader.Describes disk folder source object scope := by
  rw [load] at h
  split at h
  · cases h
  · rename_i source hsource
    cases hexported : source.exported with
    | error fault =>
        unfold ofSource at h
        rw [(Source.refused_of_exported hexported).extract] at h
        cases h
    | ok found => exact ⟨source, found.1, found.2, hsource, hexported⟩

theorem exists_of_assemble {source : Source} {extracted : Extracted} {loaded : FolderOptions}
    (h : assemble folder source extracted = .ok loaded) :
    ∃ component props metadata, extracted.component = some component ∧
      entriesFrom source.path 0 (extracted.props.getD []) = .ok props ∧
      options .config source.path FolderMeta.ofJson .empty (some extracted.config) =
        .ok metadata ∧
      loaded =
        { name := Path.label folder
          folder
          configPath := source.path
          language := source.language
          component
          props
          metadata } := by
  unfold assemble at h
  split at h
  · cases h
  · rename_i component hcomponent
    simp only [bind, Except.bind, pure, Except.pure] at h
    split at h
    · cases h
    · rename_i props hprops
      split at h
      · cases h
      · rename_i metadata hmetadata
        exact ⟨component, props, metadata, hcomponent, hprops, hmetadata,
          (Except.ok.inj h).symm⟩

theorem assemble_of_entriesFrom {source : Source} {extracted : Extracted} {component : Snippet}
    {fault : Fault} (hcomponent : extracted.component = some component)
    (h : entriesFrom source.path 0 (extracted.props.getD []) = .error fault) :
    assemble folder source extracted = .error fault := by
  simp only [assemble, hcomponent, h, bind, Except.bind]

theorem exists_assemble {source : Source} {extracted : Extracted} {component : Snippet}
    {props : List PropsEntry} {metadata : FolderMeta}
    (hcomponent : extracted.component = some component)
    (hprops : entriesFrom source.path 0 (extracted.props.getD []) = .ok props)
    (hmetadata : FolderMeta.ofJson extracted.config = .ok metadata) :
    ∃ loaded, assemble folder source extracted = .ok loaded := by
  simp only [assemble, hcomponent, hprops, options, hmetadata, bind, Except.bind]
  exact ⟨_, rfl⟩

theorem component_extracted (source : Source) {object : ObjectLiteral} {scope : Scope}
    {found : ComponentMatch} (h : (object.scan (some scope)).component = some found) :
    (source.extracted object scope).component = some (source.snippet found) := by
  simp only [Source.extracted, ObjectLiteral.reading, h, Option.map_some]

end Loading

/-- A folder that is loaded has one entry for each position of the props, in order.  Where the
component is found, a position that gives no entry is told before anything that is wrong with
the options of the folder, and of several such positions the first one.  Without such a position
the folder is loaded if its options fit. -/
theorem load_entries (loader : Loader) (disk : Disk) (folder : String) :
    (∀ loaded, (loader.load disk folder).outcome = .ok loaded →
      ∃ source object scope, loader.Describes disk folder source object scope ∧
        loaded.configPath = source.path ∧
        loaded.props.length = (object.positions (some scope)).length ∧
        ∀ (i : Nat) (p : PropsPosition), (object.positions (some scope))[i]? = some p →
          ∃ e : PropsEntry, loaded.props[i]? = some e ∧ e.Shows source.code (some scope) i p) ∧
      ∀ source object scope, loader.Describes disk folder source object scope →
        (object.scan (some scope)).component.isSome →
        (∀ (i : Nat) (p : PropsPosition) (fault : Fault),
          (object.positions (some scope))[i]? = some p → p.Fails (some scope) source.path fault →
          ∃ j ≤ i, ∃ (q : PropsPosition) (first : Fault),
            (object.positions (some scope))[j]? = some q ∧
            q.Fails (some scope) source.path first ∧
            (∀ k < j, ∀ r : PropsPosition, (object.positions (some scope))[k]? = some r →
              ∀ other, ¬ r.Fails (some scope) source.path other) ∧
            (loader.load disk folder).outcome = .error first) ∧
        ((∀ p ∈ object.positions (some scope), ∀ fault,
            ¬ PropsPosition.Fails (some scope) source.path p fault) →
          (∃ metadata, FolderMeta.ofJson (object.staticValue (some scope)) = .ok metadata) →
          ∃ loaded, (loader.load disk folder).outcome = .ok loaded) := by
  constructor
  · intro loaded hloaded
    obtain ⟨source, object, scope, hdescribes⟩ := exists_describes hloaded
    rw [hdescribes.outcome_load] at hloaded
    obtain ⟨component, props, metadata, -, hprops, -, rfl⟩ := exists_of_assemble hloaded
    rw [Source.getD_props_extracted] at hprops
    obtain ⟨hlength, hshows⟩ := entriesFrom_shows _ _ _ hprops
    refine ⟨source, object, scope, hdescribes, rfl, hlength, ?_⟩
    intro i p hp
    obtain ⟨e, he, hshown⟩ := hshows i p hp
    rw [Nat.zero_add] at hshown
    exact ⟨e, he, hshown⟩
  · intro source object scope hdescribes hcomponent
    obtain ⟨found, hfound⟩ := Option.isSome_iff_exists.mp hcomponent
    have hsnippet := component_extracted source hfound
    rw [hdescribes.outcome_load]
    constructor
    · intro i p fault hp hfails
      obtain ⟨j, hj, q, first, hq, hfirst, hbefore, herror⟩ :=
        entriesFrom_fails source.code source.path (some scope) 0 hp hfails
      refine ⟨j, hj, q, first, hq, hfirst, hbefore, ?_⟩
      apply assemble_of_entriesFrom hsnippet
      rw [Source.getD_props_extracted]
      exact herror
    · rintro hfits ⟨metadata, hmetadata⟩
      obtain ⟨props, hprops⟩ := exists_entriesFrom source.code source.path (some scope) 0 hfits
      rw [← Source.getD_props_extracted] at hprops
      exact exists_assemble hsnippet hprops hmetadata

namespace Demonstrations

/-- Two positions, the second with options. -/
def shown : Source :=
  ⟨"/card/readme.js", .js, "module.exports = \x7b component: () => 1, title: 'Card', " ++
    "props: [\x7b a: 1 \x7d, [\x7b b: 2 \x7d, \x7b alt: 'B', props: \x7b c: 3 \x7d \x7d]] \x7d;"⟩

/-- The options of the second position are of the wrong shape, the third has no code, and the
title is no text. -/
def withheld : Source :=
  ⟨"/button/readme.js", .js, "module.exports = \x7b component: () => 1, title: 5, " ++
    "props: [\x7b a: 1 \x7d, [\x7b b: 2 \x7d, \x7b alt: 5 \x7d], c] \x7d;"⟩

def disk : Disk :=
  ⟨.directory [("button", .directory [("readme.js", .file (.text withheld.code))]),
    ("card", .directory [("readme.js", .file (.text shown.code))])], []⟩

def byName : Loader := ⟨"readme", false⟩

/-- Whether a folder has a description with a component that passes a check. -/
def passes (folder : String) (check : Source → ObjectLiteral → Scope → Bool) : Bool :=
  match disk.source (Path.join folder byName.configName) byName.untypedOnly with
  | .error _ => false
  | .ok source =>
    match source.exported with
    | .error _ => false
    | .ok (object, scope) =>
      (object.scan (some scope)).component.isSome && check source object scope

theorem exists_of_passes {folder : String} {check : Source → ObjectLiteral → Scope → Bool}
    (h : passes folder check = true) :
    ∃ source object scope, byName.Describes disk folder source object scope ∧
      (object.scan (some scope)).component.isSome ∧ check source object scope = true := by
  unfold passes at h
  split at h
  · cases h
  · rename_i source hsource
    split at h
    · cases h
    · rename_i object scope hexported
      obtain ⟨hcomponent, hcheck⟩ := Bool.and_eq_true_iff.mp h
      exact ⟨source, object, scope, ⟨hsource, hexported⟩, hcomponent, hcheck⟩

/-- Every position gives an entry, and the options fit. -/
def fits (source : Source) (object : ObjectLiteral) (scope : Scope) : Bool :=
  ((object.positions (some scope)).all fun p =>
      (entry source.path 0 (p.raw source.code (some scope))).isOk) &&
    (FolderMeta.ofJson (object.staticValue (some scope))).isOk

def withholdsThird (source : Source) (object : ObjectLiteral) (scope : Scope) : Bool :=
  (object.positions (some scope))[2]?.any fun p =>
    !(entry source.path 2 (p.raw source.code (some scope))).isOk

end Demonstrations

open Demonstrations in
theorem load_entries_demonstrations :
    (∃ loaded source object scope, (byName.load disk "/card").outcome = .ok loaded ∧
      byName.Describes disk "/card" source object scope ∧
      loaded.props.length = (object.positions (some scope)).length) ∧
    ∃ source object scope p fault, byName.Describes disk "/button" source object scope ∧
      (object.scan (some scope)).component.isSome ∧
      (object.positions (some scope))[2]? = some p ∧ p.Fails (some scope) source.path fault ∧
      ∃ j ≤ 2, ∃ (q : PropsPosition) (first : Fault),
        (object.positions (some scope))[j]? = some q ∧
        q.Fails (some scope) source.path first ∧
        (byName.load disk "/button").outcome = .error first := by
  constructor
  · obtain ⟨hloaded, hdescribed⟩ := load_entries byName disk "/card"
    have hpasses : passes "/card" fits = true := by decide +kernel
    obtain ⟨source, object, scope, hdescribes, hcomponent, hfits⟩ := exists_of_passes hpasses
    obtain ⟨hpositions, hmetadata⟩ := Bool.and_eq_true_iff.mp hfits
    rw [List.all_eq_true] at hpositions
    obtain ⟨-, hloads⟩ := hdescribed source object scope hdescribes hcomponent
    obtain ⟨loaded, hload⟩ := hloads
      (fun p hp => (isOk_entry_iff _ _ _ 0 p).mp (hpositions p hp))
      (exists_eq_ok_of_isOk hmetadata)
    obtain ⟨source', object', scope', hdescribes', -, hlength, -⟩ := hloaded loaded hload
    exact ⟨loaded, source', object', scope', hload, hdescribes', hlength⟩
  · obtain ⟨-, hdescribed⟩ := load_entries byName disk "/button"
    have hpasses : passes "/button" withholdsThird = true := by decide +kernel
    obtain ⟨source, object, scope, hdescribes, hcomponent, hthird⟩ := exists_of_passes hpasses
    obtain ⟨p, hp, hentry⟩ := (Option.any_eq_true _ _).mp hthird
    obtain ⟨fault, hfails⟩ : ∃ fault, p.Fails (some scope) source.path fault := by
      rcases entry_cases source.code source.path (some scope) 2 p with
        ⟨fault, hfails, -⟩ | ⟨e, -, hok, -⟩
      · exact ⟨fault, hfails⟩
      · rw [hok] at hentry
        cases hentry
    obtain ⟨htold, -⟩ := hdescribed source object scope hdescribes hcomponent
    obtain ⟨j, hj, q, first, hq, hfirst, -, houtcome⟩ := htold 2 p fault hp hfails
    exact ⟨source, object, scope, p, fault, hdescribes, hcomponent, hp, hfails, j, hj, q, first,
      hq, hfirst, houtcome⟩

end Loader

end Showcase
