import Showcase.Reading.Scope
import Showcase.Text.Utf8

namespace Showcase

open Script

/-! # Object literals and references

A reference is followed once: a name stands for the initial value of its declaration,
and what that value is counts as it is.
-/

/-- An object literal. -/
structure ObjectLiteral where
  span : Span
  members : List Member
deriving Inhabited

namespace Script

def Span.text (span : Span) (source : String) : String :=
  Text.slice source span.start span.stop

namespace Expr

def text (e : Expr) (source : String) : String := e.span.text source

/-- The peeled expression, or the peeled initial value of the name that it is.  `none`
for a name that has none, or when there is no scope to look in. -/
def resolve (scope : Option Scope) (e : Expr) : Option Expr :=
  match e.peel with
  | .identifier id => (scope.bind (·.initializer? id.name)).map peel
  | e => some e

/-- The object literal that an expression is or refers to. -/
def resolveObject (scope : Option Scope) (e : Expr) : Option ObjectLiteral :=
  match e.resolve scope with
  | some (.object span members) => some ⟨span, members⟩
  | _ => none

end Expr

/-- The name of a key that is written out as a name or a string. -/
def Key.text? : Key → Option String
  | name text => some text
  | string value => some value
  | _ => none

namespace Member

/-- The name and value of a plain member, `name: value` or shorthand. -/
def plain? : Member → Option (String × Expr)
  | property _ key .value value | property _ key .shorthand value =>
    key.text?.map fun name => (name, value)
  | _ => none

end Member

end Script

namespace ObjectLiteral

/-- The value of the first plain member with a name. -/
def find? (object : ObjectLiteral) (name : String) : Option Expr :=
  object.members.findSome? fun m =>
    match m.plain? with
    | some (n, value) => if n = name then some value else none
    | none => none

end ObjectLiteral

end Showcase
