import Showcase.Proofs.Reading.Inlining

namespace Showcase

open Script

/-!
# One pass for both roles

The pass over the members of an object looks for the component and the props at once, notes the
references that fail on the way, and ends when both roles are filled.  It finds what separate
searches through all members find: the first component, the first props, and the references
before the first component that lead nowhere.
-/

namespace MemberShape

/-- Whether a member may be the component: a method, or a member of that name. -/
def takesComponent (shape : MemberShape) : Bool :=
  shape.isMethod || shape.name? == some "component"

/-- Whether a member is the component unless there is one before it. -/
def fills (scope : Option Scope) (shape : MemberShape) : Bool :=
  shape.takesComponent && (shape.component? scope).isSome

/-- Whether a member may be the props: one of that name that is no method. -/
def takesProps (shape : MemberShape) : Bool :=
  !shape.isMethod && shape.name? == some "props"

end MemberShape

namespace RoleScan

variable (scope : Option Scope)

def firstComponent? (shapes : List MemberShape) : Option ComponentMatch :=
  (shapes.find? (·.fills scope)).bind (·.component? scope)

def firstProps? (shapes : List MemberShape) : Option PropsMatch :=
  (shapes.find? (·.takesProps)).bind (·.props? scope)

/-- What a reference fails with: a name without initial value, and what binds it. -/
def failedReference? (id : Identifier) : Option UnresolvedComponent :=
  match scope.bind (·.initializer? id.name) with
  | some _ => none
  | none => some ⟨id.name, scope.bind (·.get? id.name)⟩

/-- The references named `component` that fail before the first component. -/
def failedReferences (shapes : List MemberShape) : List UnresolvedComponent :=
  let before := shapes.takeWhile (!·.fills scope)
  let targets := (before.filter (·.name? == some "component")).filterMap (·.reference?)
  targets.filterMap (failedReference? scope)

end RoleScan

/-! ## One member -/

namespace MemberShape

variable (scope : Option Scope) (shape : MemberShape)

theorem unresolved?_eq_bind :
    shape.unresolved? scope = shape.reference?.bind (RoleScan.failedReference? scope) := by
  unfold unresolved?
  cases shape.reference? with
  | none => rfl
  | some id =>
      cases scope with
      | none => rfl
      | some scope =>
          simp only [lookupIn, RoleScan.failedReference?, Option.bind_some, Scope.initializer?]
          rcases scope.lookup_cases id.name with
            ⟨hget, hlookup⟩ | ⟨b, hget, ⟨e, -, -, hlookup⟩ | ⟨-, hlookup⟩⟩
          · rw [hlookup, hget]
          · rw [hlookup]
          · rw [hlookup, hget]

/-- A reference that is the component has an initial value. -/
theorem unresolved?_eq_none_of_fills (h : shape.fills scope) : shape.unresolved? scope = none := by
  have hcomponent : (shape.component? scope).isSome := (Bool.and_eq_true_iff.mp h).2
  cases shape with
  | reference name id | shorthand name id =>
      simp only [component?] at hcomponent
      simp only [unresolved?, reference?, Option.bind_some]
      split at hcomponent
      · rename_i value hlookup
        rw [hlookup]
      · cases hcomponent
  | _ => rfl

theorem takesComponent_iff :
    shape.takesComponent = true ↔ shape.isMethod = true ∨ shape.name? = some "component" := by
  simp [takesComponent]

/-- The component that a member gives. -/
def filled? : Option ComponentMatch :=
  if shape.takesComponent then shape.component? scope else none

/-- The failed references that a member adds while there is no component. -/
def failures : List UnresolvedComponent :=
  if shape.takesComponent then (shape.unresolved? scope).toList else []

theorem isNone_filled? : (shape.filled? scope).isNone = !shape.fills scope := by
  rw [filled?, fills, ← Option.not_isSome]
  cases shape.takesComponent <;> rfl

theorem failures_of_fills (h : shape.fills scope) : shape.failures scope = [] := by
  rw [failures, shape.unresolved?_eq_none_of_fills scope h, Option.toList_none, ite_self]

theorem namedProps?_eq_ite :
    shape.namedProps? scope = if shape.takesProps then shape.props? scope else none := by
  cases shape with
  | method name span => exact ite_self none
  | _ => simp [namedProps?, takesProps, isMethod]

/-- A member that may be the props always gives some. -/
theorem isSome_props?_of_takesProps (h : shape.takesProps) : (shape.props? scope).isSome := by
  cases shape with
  | inline name value => rfl
  | reference name id | shorthand name id =>
      rw [props?]
      split <;> rfl
  | method name span => cases h
  | ignored => cases h

end MemberShape

namespace RoleScan

section Steps

variable (scope : Option Scope) (scan : RoleScan) (shape : MemberShape)

theorem step_of_takesComponent (hnone : scan.component = none) (htakes : shape.takesComponent) :
    scan.step scope shape = scan.tryComponent scope shape := by
  have hmissing : scan.component.isNone := Option.isNone_iff_eq_none.mpr hnone
  rw [step_eq_ite, if_pos ⟨shape.takesComponent_iff.mp htakes, hmissing⟩]

/-- A member that is not taken for the component leaves what is known of it. -/
theorem step_keeps (h : scan.component ≠ none ∨ ¬ shape.takesComponent) :
    (scan.step scope shape).component = scan.component ∧
      (scan.step scope shape).unresolved = scan.unresolved := by
  rw [step_eq_ite, if_neg]
  · split <;> exact ⟨rfl, rfl⟩
  · rintro ⟨htakes, hmissing⟩
    rcases h with hfound | hother
    · exact hfound (Option.isNone_iff_eq_none.mp hmissing)
    · exact hother (shape.takesComponent_iff.mpr htakes)

theorem step_component :
    (scan.step scope shape).component = scan.component.or (shape.filled? scope) := by
  by_cases hnone : scan.component = none
  · by_cases htakes : shape.takesComponent
    · rw [step_of_takesComponent scope scan shape hnone htakes, hnone, Option.none_or,
        MemberShape.filled?, if_pos htakes]
      rfl
    · rw [(step_keeps scope scan shape (.inr htakes)).1, MemberShape.filled?, if_neg htakes,
        Option.or_none]
  · obtain ⟨found, hfound⟩ := Option.ne_none_iff_exists'.mp hnone
    rw [(step_keeps scope scan shape (.inl hnone)).1, hfound, Option.some_or]

theorem step_unresolved :
    (scan.step scope shape).unresolved =
      scan.unresolved ++ if scan.component.isNone then shape.failures scope else [] := by
  by_cases hnone : scan.component = none
  · rw [if_pos (Option.isNone_iff_eq_none.mpr hnone), MemberShape.failures]
    by_cases htakes : shape.takesComponent
    · rw [step_of_takesComponent scope scan shape hnone htakes, if_pos htakes]
      rfl
    · rw [(step_keeps scope scan shape (.inr htakes)).2, if_neg htakes, List.append_nil]
  · rw [(step_keeps scope scan shape (.inl hnone)).2, if_neg, List.append_nil]
    rwa [Option.isNone_iff_eq_none]

/-- Once both roles are filled no member changes anything. -/
theorem step_of_isDone (h : scan.isDone) : scan.step scope shape = scan := by
  obtain ⟨hcomponent, hprops⟩ := Bool.and_eq_true_iff.mp h
  rw [Option.isSome_iff_ne_none] at hcomponent hprops
  rw [step_eq_ite, if_neg, if_neg]
  · rintro ⟨-, hnone⟩
    exact hprops (Option.isNone_iff_eq_none.mp hnone)
  · rintro ⟨-, hnone⟩
    exact hcomponent (Option.isNone_iff_eq_none.mp hnone)

end Steps

/-! ## All members -/

section Runs

variable (scope : Option Scope)

theorem foldl_step_of_isDone {scan : RoleScan} (h : scan.isDone) (shapes : List MemberShape) :
    shapes.foldl (step scope) scan = scan := by
  induction shapes with
  | nil => rfl
  | cons shape rest ih => rw [List.foldl_cons, step_of_isDone scope scan shape h, ih]

/-- To end early is to go through all members. -/
theorem overMembers_eq_foldl (scan : RoleScan) (members : List Member) :
    scan.overMembers scope members =
      (members.map MemberShape.ofMember).foldl (step scope) scan := by
  induction members generalizing scan with
  | nil => rfl
  | cons m rest ih =>
      rw [overMembers, List.map_cons, List.foldl_cons]
      split
      · rename_i hdone
        exact (foldl_step_of_isDone scope hdone _).symm
      · exact ih _

theorem firstComponent?_cons (shape : MemberShape) (rest : List MemberShape) :
    firstComponent? scope (shape :: rest) =
      (shape.filled? scope).or (firstComponent? scope rest) := by
  rw [firstComponent?, firstComponent?, List.find?_cons, MemberShape.fills, MemberShape.filled?]
  by_cases htakes : shape.takesComponent
  · cases hcomponent : shape.component? scope with
    | none => simp [htakes]
    | some found => simp [htakes, hcomponent]
  · simp [htakes]

theorem failedReferences_cons (shape : MemberShape) (rest : List MemberShape) :
    failedReferences scope (shape :: rest) =
      if shape.fills scope then [] else shape.failures scope ++ failedReferences scope rest := by
  cases hfills : shape.fills scope with
  | true => simp [failedReferences, hfills]
  | false =>
      have hnamed : shape.takesComponent = (shape.name? == some "component") := by
        cases shape with
        | method name span => cases hfills
        | _ => rfl
      rw [MemberShape.failures, hnamed, shape.unresolved?_eq_bind]
      cases hname : shape.name? == some "component" with
      | false => simp [failedReferences, hfills, hname]
      | true =>
          cases hreference : shape.reference? with
          | none => simp [failedReferences, hfills, hname, hreference]
          | some id =>
              cases hfailed : failedReference? scope id <;>
                simp [failedReferences, hfills, hname, hreference, hfailed]

theorem foldl_step_component (scan : RoleScan) (shapes : List MemberShape) :
    (shapes.foldl (step scope) scan).component =
      scan.component.or (firstComponent? scope shapes) := by
  induction shapes generalizing scan with
  | nil => exact Option.or_none.symm
  | cons shape rest ih =>
      rw [List.foldl_cons, ih, step_component, Option.or_assoc, firstComponent?_cons]

theorem foldl_step_unresolved (scan : RoleScan) (shapes : List MemberShape) :
    (shapes.foldl (step scope) scan).unresolved =
      scan.unresolved ++ if scan.component.isNone then failedReferences scope shapes else [] := by
  induction shapes generalizing scan with
  | nil => simp [failedReferences]
  | cons shape rest ih =>
      rw [List.foldl_cons, ih, step_unresolved, step_component, failedReferences_cons,
        List.append_assoc]
      cases scan.component with
      | some found => simp
      | none =>
          rw [Option.none_or, MemberShape.isNone_filled?]
          cases hfills : shape.fills scope with
          | true => simp [shape.failures_of_fills scope hfills]
          | false => simp

theorem findSome?_namedProps? (shapes : List MemberShape) :
    shapes.findSome? (·.namedProps? scope) = firstProps? scope shapes := by
  induction shapes with
  | nil => rfl
  | cons shape rest ih =>
      rw [firstProps?, List.findSome?_cons, List.find?_cons, ih, shape.namedProps?_eq_ite]
      cases htakes : shape.takesProps with
      | false => rfl
      | true =>
          obtain ⟨props, hprops⟩ :=
            Option.isSome_iff_exists.mp (shape.isSome_props?_of_takesProps scope htakes)
          simp [hprops]

end Runs

end RoleScan

namespace ObjectLiteral

open RoleScan

theorem scan_eq_foldl (object : ObjectLiteral) (scope : Option Scope) :
    object.scan scope = (object.members.map MemberShape.ofMember).foldl (step scope) .empty :=
  overMembers_eq_foldl scope .empty object.members

/-- The pass finds what separate searches through all members find, and going on after both
roles are filled would find nothing else. -/
theorem scan_eq_searches (object : ObjectLiteral) (scope : Option Scope) :
    let shapes := object.members.map MemberShape.ofMember
    object.scan scope =
        ⟨firstComponent? scope shapes, firstProps? scope shapes, failedReferences scope shapes⟩ ∧
      object.scan scope = shapes.foldl (step scope) .empty := by
  intro shapes
  have hfold : object.scan scope = shapes.foldl (step scope) .empty := object.scan_eq_foldl scope
  have hcomponent : (object.scan scope).component = firstComponent? scope shapes := by
    rw [hfold, foldl_step_component]
    rfl
  have hprops : (object.scan scope).props = firstProps? scope shapes := by
    rw [scan, overMembers_props, ← findSome?_namedProps?, List.findSome?_map]
    rfl
  have hunresolved : (object.scan scope).unresolved = failedReferences scope shapes := by
    rw [hfold, foldl_step_unresolved]
    rfl
  refine ⟨?_, hfold⟩
  rw [← hcomponent, ← hprops, ← hunresolved]

/-! ## Methods -/

section Methods

variable {scope : Option Scope} (whole span : Span) {key : Key} (value : Expr)
  {before : List Member} (after : List Member)

theorem scan_component_of_method {name : String} (hkey : key.text? = some name)
    (hbefore : (scan ⟨whole, before⟩ scope).component = none) :
    (scan ⟨whole, before ++ .property span key .method value :: after⟩ scope).component =
      some ⟨span, .method⟩ := by
  have hmethod : MemberShape.ofMember (.property span key .method value) = .method name span := by
    rw [MemberShape.ofMember, hkey]
    rfl
  rw [scan_eq_foldl] at hbefore
  rw [scan_eq_foldl, List.map_append, List.foldl_append, List.map_cons, List.foldl_cons,
    foldl_step_component, step_component, hbefore, Option.none_or, hmethod]
  rfl

/-- A method whose key has no name is passed over, as a computed key is. -/
theorem scan_of_nameless_method (hkey : key.text? = none) :
    scan ⟨whole, before ++ .property span key .method value :: after⟩ scope =
      scan ⟨whole, before ++ after⟩ scope := by
  have hignored : MemberShape.ofMember (.property span key .method value) = .ignored := by
    rw [MemberShape.ofMember, hkey]
  have hstep (scan : RoleScan) : scan.step scope .ignored = scan := rfl
  rw [scan_eq_foldl, scan_eq_foldl, List.map_append, List.map_append, List.foldl_append,
    List.foldl_append, List.map_cons, List.foldl_cons, hignored, hstep]

end Methods

/-- A method with no component before it is the component as a whole if its key is a name or a
string.  If its key is a number the object is read as though it had no such member. -/
theorem scan_of_method (scope : Option Scope) (whole span : Span) (key : Key) (value : Expr)
    (before after : List Member) (hbefore : (scan ⟨whole, before⟩ scope).component = none) :
    let object : ObjectLiteral := ⟨whole, before ++ .property span key .method value :: after⟩
    match key with
    | .name _ | .string _ => (object.scan scope).component = some ⟨span, .method⟩
    | .number _ | .bigint | .computed =>
      object.scan scope = scan ⟨whole, before ++ after⟩ scope := by
  intro object
  cases key with
  | name text | string text => exact scan_component_of_method whole span value after rfl hbefore
  | number n | bigint | computed => exact scan_of_nameless_method whole span value after rfl

namespace Methods

def component (value : Expr) : Member := .property ⟨0, 0⟩ (.name "component") .value value

/-- `{ component: 'a', [key]() {}, component: () => 1 }`, with the key written as it is given -/
def keyed (key : Key) : ObjectLiteral :=
  ⟨⟨0, 0⟩, [component (.string ⟨0, 0⟩ "a")] ++
    .property ⟨19, 27⟩ key .method (.definition ⟨20, 27⟩ .function) ::
      [component (.definition ⟨40, 47⟩ .arrow)]⟩

end Methods

open Methods in
theorem scan_of_method_keyed :
    (scan ⟨⟨0, 0⟩, [component (.string ⟨0, 0⟩ "a")]⟩ none).component = none ∧
      ((keyed (.string "b c")).scan none).component = some ⟨⟨19, 27⟩, .method⟩ ∧
      ((keyed (.number (.finite false 1 0))).scan none).component =
        some ⟨⟨40, 47⟩, .inline⟩ := by
  have hbefore : (scan ⟨⟨0, 0⟩, [component (.string ⟨0, 0⟩ "a")]⟩ none).component = none := rfl
  have hscan (key : Key) := scan_of_method none ⟨0, 0⟩ ⟨19, 27⟩ key (.definition ⟨20, 27⟩ .function)
    _ [component (.definition ⟨40, 47⟩ .arrow)] hbefore
  refine ⟨hbefore, hscan (.string "b c"), ?_⟩
  exact (congrArg RoleScan.component (hscan (.number (.finite false 1 0)))).trans (by decide)

namespace Methods

/-- A description whose one member is a method with a number for its key. -/
def numbered : Source :=
  ⟨"readme.js", .js, "module.exports = \x7b 1() \x7b return 'a'; \x7d \x7d;"⟩

/-- Whether the one member is such a method. -/
def isNumbered : List Member → Bool
  | [.property _ (.number _) .method _] => true
  | _ => false

theorem exists_of_isNumbered {members : List Member} (h : isNumbered members) :
    ∃ span n value, members = [.property span (.number n) .method value] := by
  unfold isNumbered at h
  split at h
  · exact ⟨_, _, _, rfl⟩
  · cases h

end Methods

open Methods in
theorem methods_not_always_component :
    ¬ ∀ (source : Source) (object : ObjectLiteral) (scope : Scope) (before after : List Member)
        (span : Span) (key : Key) (value : Expr),
      source.exported = .ok (object, scope) →
        object.members = before ++ .property span key .method value :: after →
          key ≠ .computed → (scan ⟨object.span, before⟩ (some scope)).component = none →
            (object.scan (some scope)).component = some ⟨span, .method⟩ := by
  intro hall
  have hread : (numbered.exported.toOption.map fun found => isNumbered found.1.members) =
      some true := by decide +kernel
  obtain ⟨⟨⟨whole, members⟩, scope⟩, hfound, hmembers⟩ := Option.map_eq_some_iff.mp hread
  obtain ⟨span, n, value, rfl⟩ := exists_of_isNumbered hmembers
  have hmethod := hall numbered _ scope [] [] span (.number n) value (eq_ok_of_toOption hfound) rfl
    nofun rfl
  cases hmethod

end ObjectLiteral

end Showcase
