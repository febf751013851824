import Showcase.Reading.Object
import Showcase.Script.Token

namespace Showcase

open Script

/-! # The exported object

A description exposes one object literal: through `module.exports = …` in an untyped
text, through `export = …` or `export default …` in a typed one.
-/

/-- The dialect of a description, told by its file extension. -/
inductive Language where
  | ts
  | tsx
  | js
deriving DecidableEq, Repr, Inhabited

namespace Language

/-- The file extension, without the point; it is the name of the language too. -/
def extension : Language → String
  | ts => "ts"
  | tsx => "tsx"
  | js => "js"

def ofExtension? : String → Option Language
  | "ts" => some ts
  | "tsx" => some tsx
  | "js" => some js
  | _ => none

theorem ofExtension?_extension (language : Language) :
    ofExtension? language.extension = some language := by
  cases language <;> rfl

/-- The languages to look for, in order. -/
def candidates (untypedOnly : Bool) : List Language :=
  if untypedOnly then [js] else [ts, tsx, js]

end Language

/-- Which form of export to look for. -/
inductive ExportStyle where
  /-- `module.exports = …` -/
  | moduleExports
  /-- `export = …` or `export default …` -/
  | exportStatement
deriving DecidableEq, Repr

def ExportStyle.forLanguage : Language → ExportStyle
  | .js => moduleExports
  | .ts | .tsx => exportStatement

/-- What the search for the exported object found. -/
inductive ExportSearch where
  | definitive (object : ObjectLiteral)
  | notDefinitive (candidates : Nat)

namespace ExportSearch

def object? : ExportSearch → Option ObjectLiteral
  | definitive object => some object
  | notDefinitive _ => none

/-- A single candidate is the one that counts. -/
def ofCandidates : List ObjectLiteral → ExportSearch
  | [object] => definitive object
  | objects => notDefinitive objects.length

end ExportSearch

/-- Whether an expression is `module.exports`. -/
def isModuleExports : Expr → Bool
  | .member _ (.identifier id) property => id.name == "module" && property == "exports"
  | _ => false

/-- The expression that a statement exports in a style. -/
def Script.Statement.exported? (style : ExportStyle) (statement : Statement) : Option Expr :=
  match style, statement with
  | .moduleExports, .expression _ e =>
    match e.peel with
    | .assignment _ true target value => if isModuleExports target then some value else none
    | _ => none
  | .exportStatement, .exportAssignment value => some value
  | .exportStatement, .exportDefault value => some value
  | _, _ => none

namespace Script.Program

/-- The object literals that a program exports in a style. -/
def exportCandidates (program : Program) (style : ExportStyle) (scope : Option Scope) :
    List ObjectLiteral :=
  program.body.filterMap fun statement =>
    (statement.exported? style).bind (Expr.resolveObject scope)

def findExport (program : Program) (style : ExportStyle) (scope : Option Scope) : ExportSearch :=
  .ofCandidates (program.exportCandidates style scope)

end Script.Program

end Showcase
