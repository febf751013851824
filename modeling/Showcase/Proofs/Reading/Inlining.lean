import Mathlib.Data.List.Forall2
import Showcase.Proofs.Reading.Props

namespace Showcase

open Script

/-!
# Names and what they stand for

A member that refers to a name says what it would say with the initial value of that name
written out in its place.  Only how the component was reached changes: what was found at a
declaration stands in the member itself then.
-/

/-- The second component stands where the first one does, and was reached in the same way or
without the name by which the first one was reached. -/
inductive ComponentMatch.Inlines : ComponentMatch → ComponentMatch → Prop
  | same (found : ComponentMatch) : Inlines found found
  | written (span : Span) : Inlines ⟨span, .declaration⟩ ⟨span, .inline⟩

namespace ComponentMatch.Inlines

variable {found found' : ComponentMatch}

theorem span_eq (h : found.Inlines found') : found'.span = found.span := by
  cases h <;> rfl

theorem source_eq (h : found.Inlines found') : found'.source = found.source ∨
    found.source = .declaration ∧ found'.source = .inline := by
  cases h with
  | same => exact .inl rfl
  | written span => exact .inr ⟨rfl, rfl⟩

end ComponentMatch.Inlines

namespace MemberShape

/-- The second shape is the first one, or what it refers to is written out in it. -/
inductive Inlines (scope : Scope) : MemberShape → MemberShape → Prop
  | same (shape : MemberShape) : Inlines scope shape shape
  | reference (name : String) {x : Identifier} {e : Expr}
      (h : scope.lookup x.name = .initializer e) :
      Inlines scope (.reference name x) (.inline name e.peel)
  | shorthand (name : String) {x : Identifier} {e : Expr}
      (h : scope.lookup x.name = .initializer e) :
      Inlines scope (.shorthand name x) (.inline name e.peel)

theorem ofNamed_value_of_identifier?_eq_none {e : Expr} (he : e.identifier? = none) (span : Span)
    (name : String) : ofNamed span name .value e = .inline name e.peel := by
  unfold Expr.identifier? at he
  unfold ofNamed
  split at he
  · cases he
  · cases hpeel : e.peel <;> simp_all

/-- Writing out what a member refers to does so in its shape. -/
theorem inlines_ofMember {scope : Scope} {kind : MemberKind} {value e : Expr} {x : Identifier}
    (hkind : kind = .value ∨ kind = .shorthand) (hx : value.identifier? = some x)
    (hlookup : scope.lookup x.name = .initializer e) (he : e.identifier? = none)
    (key : Key) (span span' : Span) :
    Inlines scope (ofMember (.property span key kind value))
      (ofMember (.property span' key .value e)) := by
  have hpeel : value.peel = .identifier x := Expr.identifier?_eq_some.mp hx
  cases hkey : key.text? with
  | none =>
      simp only [ofMember, hkey]
      exact .same _
  | some name =>
      simp only [ofMember, hkey, ofNamed_value_of_identifier?_eq_none he]
      rcases hkind with rfl | rfl
      · simp only [ofNamed, hpeel]
        exact .reference name hlookup
      · simp only [ofNamed, hpeel]
        exact .shorthand name hlookup

/-- Whether a member is a method, which may be the component under any name. -/
def isMethod : MemberShape → Bool
  | method _ _ => true
  | _ => false

namespace Inlines

variable {scope : Scope} {shape shape' : MemberShape}

theorem name?_eq (h : Inlines scope shape shape') : shape'.name? = shape.name? := by
  cases h <;> rfl

theorem isMethod_eq (h : Inlines scope shape shape') : shape'.isMethod = shape.isMethod := by
  cases h <;> rfl

theorem component?_rel (h : Inlines scope shape shape') :
    Option.Rel ComponentMatch.Inlines (shape.component? (some scope))
      (shape'.component? (some scope)) := by
  cases h with
  | same =>
      cases shape.component? (some scope) with
      | none => exact .none
      | some found => exact .some (.same found)
  | @reference name x e h | @shorthand name x e h =>
      simp only [component?, lookupIn, h]
      cases componentSpan? e.peel with
      | none => exact .none
      | some span => exact .some (.written span)

theorem props?_eq (h : Inlines scope shape shape') :
    shape'.props? (some scope) = shape.props? (some scope) := by
  cases h with
  | same => rfl
  | reference name h | shorthand name h => simp [props?, lookupIn, h]

theorem unresolved?_eq (h : Inlines scope shape shape') :
    shape'.unresolved? (some scope) = shape.unresolved? (some scope) := by
  cases h with
  | same => rfl
  | reference name h | shorthand name h => simp [unresolved?, reference?, lookupIn, h]

end Inlines

end MemberShape

namespace RoleScan

/-- Scans that found the same, the component possibly without the name for it. -/
structure Inlines (scan scan' : RoleScan) : Prop where
  component : Option.Rel ComponentMatch.Inlines scan.component scan'.component
  props : scan'.props = scan.props
  unresolved : scan'.unresolved = scan.unresolved

/-- A step as one choice: a method, or a member of that name, is taken for a component that
is missing, and a member named `props` for props that are missing. -/
theorem step_eq_ite (scope : Option Scope) (scan : RoleScan) (shape : MemberShape) :
    scan.step scope shape =
      if (shape.isMethod ∨ shape.name? = some "component") ∧ scan.component.isNone then
        scan.tryComponent scope shape
      else if shape.name? = some "props" ∧ scan.props.isNone then
        { scan with props := shape.props? scope }
      else scan := by
  cases shape with
  | method name span =>
      simp only [step, MemberShape.isMethod, true_or, true_and]
      split
      · rfl
      · -- A method holds no props, so taking it for missing ones changes nothing.
        split
        · rename_i h
          simp [MemberShape.props?, ← Option.isNone_iff_eq_none.mp h.2]
        · rfl
  | _ => simp [step, MemberShape.isMethod]

namespace Inlines

variable {scan scan' : RoleScan}

theorem map_span_component (h : Inlines scan scan') :
    scan'.component.map (·.span) = scan.component.map (·.span) := by
  rcases h with ⟨hcomponent, -, -⟩
  generalize scan.component = found at hcomponent
  generalize scan'.component = found' at hcomponent
  cases hcomponent with
  | none => rfl
  | some h => exact congrArg some h.span_eq

theorem isNone_component_eq (h : Inlines scan scan') :
    scan'.component.isNone = scan.component.isNone := by
  have hmap := congrArg Option.isNone h.map_span_component
  rwa [Option.isNone_map, Option.isNone_map] at hmap

theorem isDone_eq (h : Inlines scan scan') : scan'.isDone = scan.isDone := by
  have hnone := h.isNone_component_eq
  simp only [isDone, h.props, ← Option.not_isNone, hnone]

variable {scope : Scope} {shape shape' : MemberShape}

theorem step (h : Inlines scan scan') (hshape : shape.Inlines scope shape') :
    Inlines (scan.step (some scope) shape) (scan'.step (some scope) shape') := by
  rw [step_eq_ite, step_eq_ite, hshape.name?_eq, hshape.isMethod_eq, hshape.props?_eq,
    h.isNone_component_eq, h.props]
  split
  · exact ⟨hshape.component?_rel, h.props, by
      simp only [tryComponent, h.unresolved, hshape.unresolved?_eq]⟩
  · split
    · exact ⟨h.component, rfl, h.unresolved⟩
    · exact h

theorem overMembers (h : Inlines scan scan') {members members' : List Member}
    (hmembers : List.Forall₂
      (fun m m' => (MemberShape.ofMember m).Inlines scope (MemberShape.ofMember m'))
      members members') :
    Inlines (scan.overMembers (some scope) members) (scan'.overMembers (some scope) members') := by
  induction hmembers generalizing scan scan' with
  | nil => exact h
  | cons hshape _ ih =>
      have hstep := h.step hshape
      unfold RoleScan.overMembers
      simp only [hstep.isDone_eq]
      split
      · exact hstep
      · exact ih hstep

end Inlines

end RoleScan

namespace ObjectLiteral

/-- One member among others in which the name that it refers to is written out. -/
theorem scan_inlines {scope : Scope} {members before after : List Member} {m m' : Member}
    (hmembers : members = before ++ m :: after)
    (h : (MemberShape.ofMember m).Inlines scope (.ofMember m')) (span span' : Span) :
    RoleScan.Inlines (scan ⟨span, members⟩ (some scope))
      (scan ⟨span', before ++ m' :: after⟩ (some scope)) := by
  have hsame (siblings : List Member) : List.Forall₂
      (fun m m' => (MemberShape.ofMember m).Inlines scope (.ofMember m')) siblings siblings :=
    List.forall₂_same.mpr fun m _ => .same _
  rw [hmembers]
  have hshapes := List.rel_append (hsame before) (.cons h (hsame after))
  exact RoleScan.Inlines.overMembers ⟨.none, rfl, rfl⟩ hshapes

/-- Where a member refers to a name whose initial value is no name again, writing that value
out in the member changes neither where the component stands nor anything about the props.
At most the component is told to stand in the member and no longer at a declaration. -/
theorem scan_eq_of_inlined {scope : Scope} {kind : MemberKind} {value e : Expr} {x : Identifier}
    (hkind : kind = .value ∨ kind = .shorthand) (hx : value.identifier? = some x)
    (hlookup : scope.lookup x.name = .initializer e) (he : e.identifier? = none)
    (before after : List Member) (key : Key) (span span' whole whole' : Span) (source : Source) :
    let scan := scan ⟨whole, before ++ .property span key kind value :: after⟩ (some scope)
    let scan' := ObjectLiteral.scan ⟨whole', before ++ .property span' key .value e :: after⟩
      (some scope)
    scan'.component.map (·.span) = scan.component.map (·.span) ∧
      (scan'.component.map source.snippet).map (fun s => (s.code, s.location)) =
        (scan.component.map source.snippet).map (fun s => (s.code, s.location)) ∧
      (∀ found found', scan.component = some found → scan'.component = some found' →
        found'.source = found.source ∨
          found.source = .declaration ∧ found'.source = .inline) ∧
      scan'.props.isSome = scan.props.isSome ∧
      (∀ sub, scan'.props.map (·.text source.code (some scope) sub) =
        scan.props.map (·.text source.code (some scope) sub)) ∧
      scan'.props.map (·.entries source.code (some scope)) =
        scan.props.map (·.entries source.code (some scope)) := by
  intro scan scan'
  have hinlines : RoleScan.Inlines scan scan' :=
    scan_inlines rfl (MemberShape.inlines_ofMember hkind hx hlookup he key span span') whole whole'
  have hspan : scan'.component.map (·.span) = scan.component.map (·.span) :=
    hinlines.map_span_component
  refine ⟨hspan, ?_, ?_, ?_, fun sub => ?_, ?_⟩
  · have hplaced := congrArg (Option.map fun s : Span =>
      (s.text source.code, Location.ofOffset source.code source.path s.start)) hspan
    simpa [Option.map_map, Function.comp_def, Source.snippet] using hplaced
  · intro found found' hfound hfound'
    have hrel := hinlines.component
    rw [hfound, hfound'] at hrel
    cases hrel with
    | some h => exact h.source_eq
  all_goals rw [hinlines.props]

namespace Inlined

def source : Source :=
  ⟨"readme.js", .js, "const Button = () => 1;\nconst data = [{}];\n"⟩

/-- The scope of `source`. -/
def scope : Scope :=
  ⟨[⟨.variable, ⟨"Button", ⟨6, 12⟩⟩, some (.definition ⟨15, 22⟩ .arrow), none⟩,
    ⟨.variable, ⟨"data", ⟨30, 34⟩⟩, some (.array ⟨37, 41⟩ [.item (.object ⟨38, 40⟩ [])]), none⟩]⟩

def member (name : String) (value : Expr) : Member := .property ⟨0, 0⟩ (.name name) .value value

/-- `{ component: missing, component, props: data }`, where the second member holds `component` -/
def object (component : Expr) : ObjectLiteral :=
  ⟨⟨0, 0⟩, [member "component" (.identifier ⟨"missing", ⟨0, 0⟩⟩)] ++
    member "component" component :: [member "props" (.identifier ⟨"data", ⟨0, 0⟩⟩)]⟩

end Inlined

open Inlined in
theorem scan_eq_of_inlined_button :
    Inlined.scope.lookup "Button" = .initializer (.definition ⟨15, 22⟩ .arrow) ∧
      let scan := (object (.identifier ⟨"Button", ⟨0, 0⟩⟩)).scan (some Inlined.scope)
      let scan' := (object (.definition ⟨15, 22⟩ .arrow)).scan (some Inlined.scope)
      (scan.component.map source.snippet).map (fun s => (s.code, s.source, s.location)) =
          some ("() => 1", .declaration, ⟨"readme.js", 1, 16⟩) ∧
        (scan'.component.map source.snippet).map (fun s => (s.code, s.location)) =
          (scan.component.map source.snippet).map (fun s => (s.code, s.location)) ∧
        scan'.props.map (·.entries source.code (some Inlined.scope)) =
          scan.props.map (·.entries source.code (some Inlined.scope)) := by
  have hlookup : Inlined.scope.lookup "Button" = .initializer (.definition ⟨15, 22⟩ .arrow) := rfl
  have hname : (Expr.identifier ⟨"Button", ⟨0, 0⟩⟩).identifier? = some ⟨"Button", ⟨0, 0⟩⟩ := rfl
  obtain ⟨-, hplaced, -, -, -, hentries⟩ := scan_eq_of_inlined (.inl rfl) hname hlookup rfl
    [member "component" (.identifier ⟨"missing", ⟨0, 0⟩⟩)]
    [member "props" (.identifier ⟨"data", ⟨0, 0⟩⟩)] (.name "component") ⟨0, 0⟩ ⟨0, 0⟩ ⟨0, 0⟩ ⟨0, 0⟩
    source
  exact ⟨hlookup, by decide +kernel, hplaced, hentries⟩

end ObjectLiteral

end Showcase
