import Showcase.Reading.Object

namespace Showcase

open Script

/-! # Component and props

One pass over the members of the exported object finds the first member that can be
the component and the first that is named `props`.  A method counts as the
component whatever its name.
-/

/-- What a member of an object literal is. -/
inductive MemberShape where
  /-- `name: value`, where the value is no bare name -/
  | inline (name : String) (value : Expr)
  /-- `name: reference` -/
  | reference (name : String) (target : Identifier)
  /-- `name` alone -/
  | shorthand (name : String) (target : Identifier)
  /-- `name() { … }` -/
  | method (name : String) (span : Span)
  /-- Spreads, accessors and keys without a name. -/
  | ignored

namespace MemberShape

def ofNamed (span : Span) (name : String) (kind : MemberKind) (value : Expr) : MemberShape :=
  match kind with
  | .getter | .setter => ignored
  | .method => method name span
  | .shorthand =>
    match value.peel with
    | .identifier id => shorthand name id
    | value => inline name value
  | .value =>
    match value.peel with
    | .identifier id => reference name id
    | value => inline name value

def ofMember : Member → MemberShape
  | .spread _ _ => ignored
  | .property span key kind value =>
    match key.text? with
    | some name => ofNamed span name kind value
    | none => ignored

def name? : MemberShape → Option String
  | inline name _ | reference name _ | shorthand name _ | method name _ => some name
  | ignored => none

/-- The name that a member refers to. -/
def reference? : MemberShape → Option Identifier
  | reference _ id | shorthand _ id => some id
  | _ => none

end MemberShape

/-- How the component was reached. -/
inductive ComponentSource where
  /-- It stands in the member itself. -/
  | inline
  /-- It is the initial value of the name that the member refers to. -/
  | declaration
  /-- It is a method. -/
  | method
deriving DecidableEq, Repr, Inhabited

def ComponentSource.display : ComponentSource → String
  | inline => "inline"
  | declaration => "declaration"
  | method => "method"

/-- Where the component stands. -/
structure ComponentMatch where
  span : Span
  source : ComponentSource
deriving DecidableEq, Repr

/-- What the `props` member holds. -/
inductive PropsMatch where
  | expression (value : Expr)
  /-- A name that has no initial value. -/
  | unresolved

/-- A reference in the component role that reaches no value. -/
structure UnresolvedComponent where
  name : String
  binding : Option Binding

/-- What the members hold. -/
structure RoleScan where
  component : Option ComponentMatch
  props : Option PropsMatch
  unresolved : List UnresolvedComponent
deriving Inhabited

/-- The stretch of a function, arrow function or class. -/
def componentSpan? : Expr → Option Span
  | .definition span _ => some span
  | _ => none

/-- What is known about a name when there may be no scope. -/
def lookupIn (scope : Option Scope) (name : String) : Lookup :=
  match scope with
  | some scope => scope.lookup name
  | none => .undeclared

/-- The component that a member holds. -/
def MemberShape.component? (scope : Option Scope) : MemberShape → Option ComponentMatch
  | inline _ value => (componentSpan? value).map (⟨·, .inline⟩)
  | reference _ id | shorthand _ id =>
    match lookupIn scope id.name with
    | .initializer value => (componentSpan? value.peel).map (⟨·, .declaration⟩)
    | _ => none
  | method _ span => some ⟨span, .method⟩
  | ignored => none

/-- The reference that fails when a member is taken for the component. -/
def MemberShape.unresolved? (scope : Option Scope) (shape : MemberShape) :
    Option UnresolvedComponent :=
  shape.reference?.bind fun id =>
    match lookupIn scope id.name with
    | .initializer _ => none
    | .noInitializer binding => some ⟨id.name, some binding⟩
    | .undeclared => some ⟨id.name, none⟩

/-- The props that a member holds. -/
def MemberShape.props? (scope : Option Scope) : MemberShape → Option PropsMatch
  | inline _ value => some (.expression value)
  | reference _ id | shorthand _ id =>
    match lookupIn scope id.name with
    | .initializer value => some (.expression value.peel)
    | _ => some .unresolved
  | method _ _ | ignored => none

namespace RoleScan

def empty : RoleScan := ⟨none, none, []⟩

/-- Takes a member for the component. -/
def tryComponent (scope : Option Scope) (scan : RoleScan) (shape : MemberShape) : RoleScan :=
  { scan with
    component := shape.component? scope
    unresolved := scan.unresolved ++ (shape.unresolved? scope).toList }

def step (scope : Option Scope) (scan : RoleScan) (shape : MemberShape) : RoleScan :=
  match shape with
  | .method _ _ => if scan.component.isNone then scan.tryComponent scope shape else scan
  | shape =>
    if shape.name? = some "component" ∧ scan.component.isNone then scan.tryComponent scope shape
    else if shape.name? = some "props" ∧ scan.props.isNone then
      { scan with props := shape.props? scope }
    else scan

/-- Whether both roles are filled. -/
def isDone (scan : RoleScan) : Bool := scan.component.isSome && scan.props.isSome

/-- Goes through members until both roles are filled. -/
def overMembers (scope : Option Scope) (scan : RoleScan) : List Member → RoleScan
  | [] => scan
  | m :: rest =>
    let scan := scan.step scope (.ofMember m)
    if scan.isDone then scan else scan.overMembers scope rest

end RoleScan

def ObjectLiteral.scan (object : ObjectLiteral) (scope : Option Scope) : RoleScan :=
  RoleScan.empty.overMembers scope object.members

end Showcase
