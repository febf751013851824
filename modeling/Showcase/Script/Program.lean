import Showcase.Number.Binary64

namespace Showcase.Script

/-! # Programs

A parsed script keeps what a static reader of it can use: the top-level statements
that bind names or export something, and the expressions that denote values which
can be read without running anything.  Every other form is kept as a span with a
name for what it is.
-/

/-- A stretch of the source text, in bytes. -/
structure Span where
  start : Nat
  stop : Nat
deriving DecidableEq, Repr, Inhabited

/-- A name together with where it stands. -/
structure Identifier where
  name : String
  span : Span
deriving DecidableEq, Repr, Inhabited

/-- Wrappers that leave the value of an expression alone: parentheses, the type
annotations `as`, `satisfies` and `<T>`, and the assertion `!`. -/
inductive Wrapper where
  | parentheses
  | asType
  | satisfiesType
  | typeAssertion
  | nonNull
deriving DecidableEq, Repr

/-- Expressions that define a component. -/
inductive Definition where
  | function
  | arrow
  | ofClass
deriving DecidableEq, Repr

/-- Expression forms that are not looked into. -/
inductive Form where
  | this
  | super
  | regex
  | bigint
  | index
  | privateMember
  | call
  | newCall
  | importCall
  | metaProperty
  | optionalChain
  | instantiation
  | taggedTemplate
  | unary
  | update
  | await
  | yield
  | binary
  | privateIn
  | logicalOr
  | logicalAnd
  | coalesce
  | conditional
  | sequence
  | markup
deriving DecidableEq, Repr

/-- The key of an object member.  A computed key has no name of its own. -/
inductive Key where
  | name (text : String)
  | string (value : String)
  | number (value : Binary64)
  | bigint
  | computed
deriving DecidableEq, Repr

/-- What kind of member stands in an object literal. -/
inductive MemberKind where
  | value
  | shorthand
  | method
  | getter
  | setter
deriving DecidableEq, Repr

mutual

/-- An expression. -/
inductive Expr where
  | identifier (id : Identifier)
  | string (span : Span) (value : String)
  | boolean (span : Span) (value : Bool)
  | null (span : Span)
  | number (span : Span) (value : Binary64)
  /-- The cooked texts of the pieces of a template; one piece means no substitution. -/
  | template (span : Span) (pieces : List (Option String))
  | array (span : Span) (elements : List Element)
  | object (span : Span) (members : List Member)
  | definition (span : Span) (what : Definition)
  | wrapped (span : Span) (wrapper : Wrapper) (inner : Expr)
  | negation (span : Span) (operand : Expr)
  | member (span : Span) (object : Expr) (property : String)
  /-- An assignment; `plain` for the operator `=`. -/
  | assignment (span : Span) (plain : Bool) (target : Expr) (value : Expr)
  | other (span : Span) (form : Form)

/-- An element of an array literal. -/
inductive Element where
  | item (value : Expr)
  | spread (span : Span) (argument : Expr)
  | hole (span : Span)

/-- A member of an object literal. -/
inductive Member where
  | property (span : Span) (key : Key) (kind : MemberKind) (value : Expr)
  | spread (span : Span) (argument : Expr)

end

instance : Inhabited Expr := ⟨.other ⟨0, 0⟩ .this⟩

namespace Expr

/-- The stretch of source that an expression covers. -/
def span : Expr → Span
  | identifier id => id.span
  | string s _ | boolean s _ | null s | number s _ | template s _ | array s _ | object s _
  | definition s _ | wrapped s _ _ | negation s _ | member s _ _ | assignment s _ _ _
  | other s _ => s

/-- The expression inside all wrappers. -/
def peel : Expr → Expr
  | wrapped _ _ inner => inner.peel
  | e => e

@[simp] theorem peel_wrapped (s : Span) (w : Wrapper) (e : Expr) :
    (wrapped s w e).peel = e.peel := by
  rw [peel]

/-- A peeled expression is no wrapper. -/
theorem peel_ne_wrapped (e : Expr) (s : Span) (w : Wrapper) (i : Expr) :
    e.peel ≠ wrapped s w i := by
  fun_induction peel e with
  | case1 _ _ inner ih => exact ih
  | case2 e h => intro he; exact h _ _ _ he

@[simp] theorem peel_peel (e : Expr) : e.peel.peel = e.peel := by
  fun_induction peel e with
  | case1 _ _ inner ih => exact ih
  | case2 e h =>
    cases e <;> first | rfl | exact absurd rfl (h _ _ _)

end Expr

/-- A name that a declaration introduces with its initial value, if it has one. -/
structure Declarator where
  name : Identifier
  initial : Option Expr

/-- A top-level declaration.  Variables bound by a pattern are left out. -/
inductive Declaration where
  | declarators (declarators : List Declarator)
  | function (name : Option Identifier)
  | ofClass (name : Option Identifier)
  /-- Types, interfaces, enumerations and namespaces. -/
  | typed

/-- A top-level statement. -/
inductive Statement where
  | expression (span : Span) (value : Expr)
  | declaration (declaration : Declaration)
  | importing (names : List Identifier) (module : String)
  /-- `import name = …`, with the module specifier if it is a `require` call. -/
  | importEquals (name : Identifier) (module : Option String)
  | exportDeclaration (declaration : Declaration)
  /-- `export = value` -/
  | exportAssignment (value : Expr)
  /-- `export default value`, for a value that is no declaration. -/
  | exportDefault (value : Expr)
  | other
deriving Inhabited

/-- A parsed script: its statements after the directives. -/
structure Program where
  body : List Statement
deriving Inhabited

end Showcase.Script
