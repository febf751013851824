import Showcase.Reading.Roles
import Showcase.Reading.Static

namespace Showcase

open Script

/-! # Props as text

The props of a component are one object or an array of them.  An element of the array
may be a pair of an object and its options.
-/

/-- The text of props.  An entry without text is one that is no object literal. -/
inductive PropsText where
  | single (text : Option String)
  | list (texts : List (Option String))
deriving DecidableEq, Repr

/-- A props entry as it is read. -/
structure RawEntry where
  code : Option String
  readmeCode : Option String
  options : Option Json
deriving Inhabited

def RawEntry.empty : RawEntry := ⟨none, none, none⟩

/-- An element of a props array. -/
inductive PropsElement where
  | plain (value : Expr)
  | tuple (props options : Option Expr)

def Script.Element.expression? : Element → Option Expr
  | item e => some e
  | _ => none

namespace PropsElement

/-- Tells a pair from a plain element. -/
def ofExpr (scope : Option Scope) (e : Expr) : PropsElement :=
  match e.resolve scope with
  | some (.array _ elements) =>
    .tuple ((elements[0]?).bind Element.expression?) ((elements[1]?).bind Element.expression?)
  | _ => .plain e

end PropsElement

/-- The text of the object literal that `e` refers to, or of the object in its member
`sub`. -/
def objectText (source : String) (scope : Option Scope) (sub : Option String) (e : Expr) :
    Option String := do
  let object ← e.resolveObject scope
  let object ← match sub with
    | none => some object
    | some name => (object.find? name).bind (Expr.resolveObject scope)
  return object.span.text source

namespace PropsElement

/-- The text of an element.  The member `sub` of a pair is looked for in its options. -/
def text (source : String) (scope : Option Scope) (sub : Option String) :
    PropsElement → Option String
  | plain e => objectText source scope sub e
  | tuple props options =>
    match sub with
    | none => props.bind (objectText source scope none)
    | some name => options.bind (objectText source scope (some name))

def entry (source : String) (scope : Option Scope) (element : PropsElement) : RawEntry :=
  match element with
  | plain _ => ⟨element.text source scope none, none, none⟩
  | tuple _ options =>
    ⟨element.text source scope none, element.text source scope (some "props"),
      options.bind (Expr.staticValue scope)⟩

end PropsElement

namespace PropsMatch

/-- The text of props, or of their members `sub`. -/
def text (source : String) (scope : Option Scope) (sub : Option String) : PropsMatch → PropsText
  | unresolved => .single none
  | expression e =>
    match e.peel with
    | .array _ elements =>
      .list (elements.map fun element =>
        element.expression?.bind fun e => (PropsElement.ofExpr scope e).text source scope sub)
    | e => .single (objectText source scope sub e)

def entries (source : String) (scope : Option Scope) : PropsMatch → List RawEntry
  | unresolved => [.empty]
  | expression e =>
    match e.peel with
    | .array _ elements =>
      elements.map fun element =>
        match element.expression? with
        | some e => (PropsElement.ofExpr scope e).entry source scope
        | none => .empty
    | e => [⟨objectText source scope none e, none, none⟩]

end PropsMatch

end Showcase
