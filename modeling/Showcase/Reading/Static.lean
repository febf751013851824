import Showcase.Reading.Object
import Showcase.Json.Value

namespace Showcase

open Script

/-! # Static values

A literal is read as a JSON value without running anything.  A name stands for the
initial value of its declaration, and names inside that value for nothing.
-/

namespace Static

/-- The bound below which a number without fraction is written as an integer. -/
def integerBound : Nat := Nat.pow 2 63

/-- The JSON number of a script number, if it is finite. -/
def number (value : Binary64) : Option Json :=
  match value with
  | .infinite _ => none
  | value =>
    match value.toInt? with
    | some n =>
      if n.natAbs < integerBound then some (.number (.int n))
      else some (.number (.float value))
    | none => some (.number (.float value))

mutual

/-- The value of an expression; `reference` gives the values of names. -/
def valueWith (reference : String → Option Json) : Expr → Option Json
  | .wrapped _ _ inner => valueWith reference inner
  | .identifier id => reference id.name
  | .string _ value => some (.string value)
  | .boolean _ value => some (.bool value)
  | .null _ => some .null
  | .number _ value => number value
  | .negation _ operand =>
    match operand.peel with
    | .number _ value => number value.neg
    | _ => none
  | .template _ pieces =>
    match pieces with
    | [some cooked] => some (.string cooked)
    | _ => none
  | .array _ elements => some (.array (itemsWith reference elements))
  | .object _ members => some (.object (membersWith reference [] members))
  | _ => none

/-- The values of the elements of an array, `null` for those without. -/
def itemsWith (reference : String → Option Json) : List Element → List Json
  | [] => []
  | .item e :: rest => (valueWith reference e).getD .null :: itemsWith reference rest
  | .spread _ _ :: rest => .null :: itemsWith reference rest
  | .hole _ :: rest => .null :: itemsWith reference rest

/-- The values of the plain members of an object; a later one replaces an earlier one of
the same name. -/
def membersWith (reference : String → Option Json) (acc : List (String × Json)) :
    List Member → List (String × Json)
  | [] => acc
  | .spread _ _ :: rest => membersWith reference acc rest
  | .property _ key kind value :: rest =>
    if kind = .value ∨ kind = .shorthand then
      match key.text?, valueWith reference value with
      | some name, some v => membersWith reference (Json.insert name v acc) rest
      | _, _ => membersWith reference acc rest
    else membersWith reference acc rest

end

/-- The value of an expression in which no name has one. -/
def closedValue (e : Expr) : Option Json := valueWith (fun _ => none) e

/-- The value that a name has in a scope. -/
def ofName (scope : Option Scope) (name : String) : Option Json :=
  (scope.bind (·.initializer? name)).bind closedValue

end Static

def Script.Expr.staticValue (scope : Option Scope) (e : Expr) : Option Json :=
  Static.valueWith (Static.ofName scope) e

def ObjectLiteral.staticValue (scope : Option Scope) (object : ObjectLiteral) : Json :=
  .object (Static.membersWith (Static.ofName scope) [] object.members)

end Showcase
