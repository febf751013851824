import Showcase.Script.Program

namespace Showcase

open Script

/-! # The module scope

The names that the top-level statements of a program bind.  Where several
statements bind one name, the first one counts.
-/

/-- What kind of statement binds a name. -/
inductive BindingKind where
  | variable
  | function
  | ofClass
  | imported
deriving DecidableEq, Repr, Inhabited

/-- A name bound at the top level. -/
structure Binding where
  kind : BindingKind
  name : Identifier
  /-- The initial value of a variable. -/
  initial : Option Expr
  /-- The module specifier of an import. -/
  module : Option String
deriving Inhabited

/-- What is known about a name. -/
inductive Lookup where
  | initializer (value : Expr)
  | noInitializer (binding : Binding)
  | undeclared

namespace Script.Declaration

/-- The bindings of a declaration, in order. -/
def bindings : Declaration → List Binding
  | declarators ds => ds.map fun d => ⟨.variable, d.name, d.initial, none⟩
  | function name => name.toList.map fun n => ⟨.function, n, none, none⟩
  | ofClass name => name.toList.map fun n => ⟨.ofClass, n, none, none⟩
  | typed => []

end Script.Declaration

namespace Script.Statement

/-- The bindings of a statement, in order. -/
def bindings : Statement → List Binding
  | declaration d | exportDeclaration d => d.bindings
  | importing names module => names.map fun n => ⟨.imported, n, none, some module⟩
  | _ => []

end Script.Statement

namespace Script.Program

/-- The bindings of a program, in order. -/
def bindings (program : Program) : List Binding := program.body.flatMap Statement.bindings

end Script.Program

/-- The bindings of a module, one for each name. -/
structure Scope where
  bindings : List Binding

namespace Scope

def empty : Scope := ⟨[]⟩

def get? (scope : Scope) (name : String) : Option Binding :=
  scope.bindings.find? (·.name.name == name)

/-- Adds a binding unless its name is bound. -/
def insert (scope : Scope) (binding : Binding) : Scope :=
  match scope.get? binding.name.name with
  | some _ => scope
  | none => ⟨scope.bindings ++ [binding]⟩

def ofProgram (program : Program) : Scope := program.bindings.foldl insert empty

def size (scope : Scope) : Nat := scope.bindings.length

def isEmpty (scope : Scope) : Bool := scope.bindings.isEmpty

def lookup (scope : Scope) (name : String) : Lookup :=
  match scope.get? name with
  | none => .undeclared
  | some binding =>
    match binding.kind, binding.initial with
    | .variable, some value => .initializer value
    | _, _ => .noInitializer binding

def initializer? (scope : Scope) (name : String) : Option Expr :=
  match scope.lookup name with
  | .initializer value => some value
  | _ => none

theorem lookup_cases (scope : Scope) (name : String) :
    (scope.get? name = none ∧ scope.lookup name = .undeclared) ∨
      ∃ b, scope.get? name = some b ∧
        ((∃ e, b.kind = .variable ∧ b.initial = some e ∧
            scope.lookup name = .initializer e) ∨
          (b.kind = .variable → b.initial = none) ∧ scope.lookup name = .noInitializer b) := by
  unfold lookup
  cases scope.get? name with
  | none => exact .inl ⟨rfl, rfl⟩
  | some b =>
      obtain ⟨kind, id, initial, module⟩ := b
      refine .inr ⟨_, rfl, ?_⟩
      cases kind <;> cases initial <;> simp

theorem initializer?_eq_some_iff {scope : Scope} {name : String} {e : Expr} :
    scope.initializer? name = some e ↔ scope.lookup name = .initializer e := by
  unfold initializer?
  cases scope.lookup name <;> simp

end Scope

end Showcase
