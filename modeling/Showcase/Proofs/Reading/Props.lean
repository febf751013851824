import Showcase.Proofs.Reading.Findings

namespace Showcase

open Script

/-!
# The props member

The scan fills the props from the first plain member of that name, whatever stands around
it.  The reading of that member follows its name once, and the text of a single object
follows the name that it is given once more.
-/

/-- What the value of a props member holds. -/
def PropsMatch.ofValue (scope : Option Scope) (value : Expr) : PropsMatch :=
  match value.peel with
  | .identifier id =>
    match lookupIn scope id.name with
    | .initializer e => .expression e.peel
    | _ => .unresolved
  | value => .expression value

namespace MemberShape

/-- The props of a shape under its name. -/
def namedProps? (scope : Option Scope) (shape : MemberShape) : Option PropsMatch :=
  if shape.name? = some "props" then shape.props? scope else none

theorem namedProps?_ofMember (scope : Option Scope) (m : Member) :
    (ofMember m).namedProps? scope =
      m.plain?.bind fun (name, value) =>
        if name = "props" then some (.ofValue scope value) else none := by
  cases m with
  | spread span e => rfl
  | property span key kind value =>
      cases hk : key.text? with
      | none => cases kind <;> simp [ofMember, hk, Member.plain?, namedProps?, name?]
      | some name =>
          cases kind with
          | value | shorthand =>
              simp only [ofMember, hk, ofNamed, Member.plain?, Option.map_some, Option.bind_some,
                PropsMatch.ofValue]
              cases value.peel with
              | identifier id =>
                  cases hl : lookupIn scope id.name <;> simp [namedProps?, name?, props?, hl]
              | _ => simp [namedProps?, name?, props?]
          | method | getter | setter =>
              simp [ofMember, hk, ofNamed, Member.plain?, namedProps?, name?, props?]

end MemberShape

namespace RoleScan

/-- A member is taken for the props only under that name, and only when there are none. -/
theorem step_props (scope : Option Scope) (scan : RoleScan) (shape : MemberShape) :
    (scan.step scope shape).props = scan.props.or (shape.namedProps? scope) := by
  cases shape with
  | method name span =>
      simp only [step, MemberShape.namedProps?, MemberShape.props?, ite_self, Option.or_none]
      split <;> rfl
  | _ =>
      simp only [step, MemberShape.namedProps?]
      split
      · rename_i h
        simp [h.1, tryComponent]
      · cases hp : scan.props <;> split <;> simp_all

theorem overMembers_props (scope : Option Scope) (scan : RoleScan) (members : List Member) :
    (scan.overMembers scope members).props =
      scan.props.or (members.findSome? fun m => (MemberShape.ofMember m).namedProps? scope) := by
  induction members generalizing scan with
  | nil => simp [overMembers]
  | cons m rest ih =>
      have hcons : (m :: rest).findSome? (fun m => (MemberShape.ofMember m).namedProps? scope) =
          ((MemberShape.ofMember m).namedProps? scope).or
            (rest.findSome? fun m => (MemberShape.ofMember m).namedProps? scope) := by
        rw [List.findSome?_cons]
        cases (MemberShape.ofMember m).namedProps? scope <;> rfl
      rw [hcons, ← Option.or_assoc, ← step_props, overMembers]
      split
      · rename_i hdone
        obtain ⟨p, hp⟩ := Option.isSome_iff_exists.mp (Bool.and_eq_true_iff.mp hdone).2
        rw [hp, Option.some_or]
      · exact ih _

end RoleScan

/-- The props that a scan finds are those of the first plain member of that name. -/
theorem ObjectLiteral.scan_props (scope : Option Scope) (object : ObjectLiteral) :
    (object.scan scope).props = (object.find? "props").map (PropsMatch.ofValue scope) := by
  rw [scan, RoleScan.overMembers_props, find?, List.map_findSome?, RoleScan.empty, Option.none_or]
  congr 1
  funext m
  rw [MemberShape.namedProps?_ofMember, Function.comp_apply]
  cases m.plain? with
  | none => rfl
  | some p =>
      simp only [Option.bind_some]
      split <;> rfl

/-! ## A name for a name -/

section Alias

variable {scope : Scope} {value e : Expr} {x y : Identifier}

theorem PropsMatch.ofValue_alias (hx : value.peel = .identifier x)
    (he : scope.initializer? x.name = some e) (hy : e.peel = .identifier y) :
    ofValue (some scope) value = .expression (.identifier y) := by
  have hlookup : scope.lookup x.name = .initializer e := Scope.initializer?_eq_some_iff.mp he
  simp [ofValue, hx, lookupIn, hlookup, hy]

/-- The text of a single name is the text of the object that it stands for. -/
theorem PropsMatch.text_identifier (code : String) (sub : Option String) :
    (expression (.identifier y)).text code (some scope) sub =
      .single (objectText code (some scope) sub (.identifier y)) := by
  simp [text, Expr.peel]

theorem PropsMatch.entries_identifier (code : String) :
    (expression (.identifier y)).entries code (some scope) =
      [⟨objectText code (some scope) none (.identifier y), none, none⟩] := by
  simp [entries, Expr.peel]

theorem objectText_identifier_eq_none (code : String) :
    objectText code (some scope) none (.identifier y) = none ↔
      ∀ v, scope.initializer? y.name = some v → ∀ span members, v.peel ≠ .object span members := by
  simp only [objectText, Expr.resolveObject, Expr.resolve, Expr.peel, Option.bind_some]
  cases scope.initializer? y.name with
  | none => simp
  | some v => cases hv : v.peel <;> simp [hv]

theorem objectText_identifier_eq_text (code : String) {v : Expr} {span : Span}
    {members : List Member} (hv : scope.initializer? y.name = some v)
    (hobject : v.peel = .object span members) :
    objectText code (some scope) none (.identifier y) = some (span.text code) := by
  simp [objectText, Expr.resolveObject, Expr.resolve, Expr.peel, hv, hobject]

end Alias

/-- The name that an expression is. -/
def Script.Expr.identifier? (e : Expr) : Option Identifier :=
  match e.peel with
  | .identifier id => some id
  | _ => none

theorem Script.Expr.identifier?_eq_some {e : Expr} {id : Identifier} :
    e.identifier? = some id ↔ e.peel = .identifier id := by
  unfold identifier?
  cases e.peel <;> simp

namespace Source

/-- The name that stands behind the name in the props, with the scope of both. -/
def propsAlias? (source : Source) : Option (Scope × Identifier) := do
  let (object, scope) ← source.exported.toOption
  let value ← object.find? "props"
  let x ← value.identifier?
  let e ← scope.initializer? x.name
  let y ← e.identifier?
  return (scope, y)

variable {source : Source} {scope : Scope} {y : Identifier}

/-- The scan hands over the second name as it is. -/
theorem exists_exported_of_propsAlias? (h : source.propsAlias? = some (scope, y)) :
    ∃ object, source.exported = .ok (object, scope) ∧
      (object.scan (some scope)).props = some (.expression (.identifier y)) := by
  simp only [propsAlias?, Option.bind_eq_bind, Option.bind_eq_some_iff, Prod.exists] at h
  obtain ⟨object, scope', hexported, value, hvalue, x, hx, e, he, y', hy, heq⟩ := h
  obtain ⟨rfl, rfl⟩ : scope' = scope ∧ y' = y := by simpa using heq
  have hok : source.exported = .ok (object, scope') := eq_ok_of_toOption hexported
  refine ⟨object, hok, ?_⟩
  rw [ObjectLiteral.scan_props, hvalue, Option.map_some]
  exact congrArg some (PropsMatch.ofValue_alias (Expr.identifier?_eq_some.mp hx) he
    (Expr.identifier?_eq_some.mp hy))

theorem props_eq_of_propsAlias? (h : source.propsAlias? = some (scope, y)) (sub : Option String) :
    source.props sub =
      .ok (some (.single (objectText source.code (some scope) sub (.identifier y)))) := by
  obtain ⟨object, hexported, hscan⟩ := exists_exported_of_propsAlias? h
  rw [props_eq_reading hexported, ← PropsMatch.text_identifier]
  simp [ObjectLiteral.reading, hscan]

theorem entries_eq_of_propsAlias? (h : source.propsAlias? = some (scope, y)) :
    source.entries =
      .ok (some [⟨objectText source.code (some scope) none (.identifier y), none, none⟩]) := by
  obtain ⟨object, hexported, hscan⟩ := exists_exported_of_propsAlias? h
  rw [entries_eq_reading hexported, ← PropsMatch.entries_identifier]
  simp [ObjectLiteral.reading, hscan]

/-- A second name counts for nothing unless it stands for an object literal, whose text is
taken for the props. -/
theorem props_alias_ignored_iff (h : source.propsAlias? = some (scope, y)) :
    ((source.props none = .ok (some (.single none)) ∧ source.entries = .ok (some [.empty])) ↔
        ∀ v, scope.initializer? y.name = some v →
          ∀ span members, v.peel ≠ .object span members) ∧
      ∀ v span members, scope.initializer? y.name = some v → v.peel = .object span members →
        source.props none = .ok (some (.single (some (span.text source.code)))) ∧
          source.entries = .ok (some [⟨some (span.text source.code), none, none⟩]) := by
  have hprops := props_eq_of_propsAlias? h none
  have hentries := entries_eq_of_propsAlias? h
  constructor
  · rw [← objectText_identifier_eq_none source.code, hprops, hentries]
    simp [RawEntry.empty]
  · intro v span members hv hobject
    rw [hprops, hentries, objectText_identifier_eq_text source.code hv hobject]
    exact ⟨rfl, rfl⟩

end Source

namespace Alias

/-- A name for a name that stands for an object. -/
def ofObject : Source :=
  ⟨"readme.js", .js, "const y = {a: 1};\nconst x = y;\nmodule.exports = { props: x };"⟩

/-- A name for a name that stands for an array. -/
def ofArray : Source :=
  ⟨"readme.js", .js, "const y = [{a: 1}];\nconst x = y;\nmodule.exports = { props: x };"⟩

end Alias

open Alias in
theorem props_alias_not_always_ignored :
    ¬ ∀ (source : Source) (scope : Scope) (y : Identifier),
      source.propsAlias? = some (scope, y) →
        source.props none = .ok (some (.single none)) ∧ source.entries = .ok (some [.empty]) := by
  intro hall
  have hsome : ofObject.propsAlias?.isSome := by decide +kernel
  obtain ⟨⟨scope, y⟩, h⟩ := Option.isSome_iff_exists.mp hsome
  have hnone := (hall ofObject scope y h).1
  have htext : (ofObject.props none).toOption = some (some (.single (some "{a: 1}"))) := by
    decide +kernel
  rw [hnone] at htext
  simp [Except.toOption] at htext

open Alias in
theorem props_alias_ignored_of_array :
    ∃ scope y, ofArray.propsAlias? = some (scope, y) ∧
      ofArray.props none = .ok (some (.single none)) ∧ ofArray.entries = .ok (some [.empty]) := by
  have hsome : ofArray.propsAlias?.isSome := by decide +kernel
  obtain ⟨⟨scope, y⟩, h⟩ := Option.isSome_iff_exists.mp hsome
  refine ⟨scope, y, h, (Source.props_alias_ignored_iff h).1.mpr fun v hv span members hobject => ?_⟩
  have htext : (ofArray.props none).toOption = some (some (.single none)) := by decide +kernel
  have hprops := ((Source.props_alias_ignored_iff h).2 v span members hv hobject).1
  rw [hprops] at htext
  simp [Except.toOption] at htext

end Showcase
