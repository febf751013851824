import Showcase.Script.Functions

namespace Showcase.Script

/-! # Object, array and template literals, and assignment targets

The left side of an assignment is read as an expression first and turned into a
target once the operator is seen.
-/

namespace Parse

/-- A spread argument, after its dots. -/
def spreadArgument (g : Grammar) : Parse Expr := do
  expect "..."
  g.assignment

def noteTrailingComma (start : Nat) (trailing : Bool) : Parse Unit :=
  if trailing then modify fun c => { c with trailingCommas := start :: c.trailingCommas }
  else pure ()

def arrayLiteral (g : Grammar) : Parse Expr := do
  let start ← offset
  expect "["
  let element : Parse Element := do
    let from_ ← offset
    if ← isAt "," then return .hole ⟨from_, from_ + 1⟩
    if ← isAt "..." then
      let e ← spreadArgument g
      return .spread (← spanFrom from_) e
    return .item (← g.assignment)
  let (elements, trailing) ←
    within (fun s => { s with allowIn := true }) (commaList "]" element)
  noteTrailingComma start trailing
  expect "]"
  return .array (← spanFrom start) elements

/-- A member of an object literal that is no spread. -/
def objectProperty (g : Grammar) : Parse Member := do
  let start ← offset
  let words ← modifiers false
  let function : Parse Expr := do return .definition (← spanFrom start) .function
  if ← accessorWord "get" then
    let (k, _) ← key g
    let params ← method g false false
    checkGetter params
    noteIf (!words.isEmpty) (.misplaced "modifier")
    return .property (← spanFrom start) k .getter (← function)
  if ← accessorWord "set" then
    let (k, _) ← key g
    let params ← method g false false
    checkSetter params
    noteIf (!words.isEmpty) (.misplaced "modifier")
    return .property (← spanFrom start) k .setter (← function)
  let isGenerator ← eat "*"
  let named ← isAtName
  let (k, id) ← key g
  if isGenerator || (← isAtAny ["(", "<"]) then
    noteIf (words.any (· != "async")) (.misplaced "modifier")
    let _ ← method g (words.contains "async") isGenerator
    return .property (← spanFrom start) k .method (← function)
  noteIf (!words.isEmpty) (.misplaced "modifier")
  match id with
  | some id =>
    if named && !(← isAt ":") then
      checkName id.name
      match ← initializer g with
      | some _ => modify fun c => { c with pendingDefaults := start :: c.pendingDefaults }
      | none => pure ()
      return .property (← spanFrom start) k .shorthand (.identifier id)
  | none => pure ()
  expect ":"
  let value ← g.assignment
  return .property (← spanFrom start) k .value value

def objectLiteral (g : Grammar) : Parse Expr := do
  let start ← offset
  expect "\x7b"
  let member : Parse Member := do
    let from_ ← offset
    if ← isAt "..." then
      let e ← spreadArgument g
      return .spread (← spanFrom from_) e
    objectProperty g
  let (members, trailing) ←
    within (fun s => { s with allowIn := true, decorator := false }) (commaList "\x7d" member)
  noteTrailingComma start trailing
  expect "\x7d"
  return .object (← spanFrom start) members

/-- The cooked pieces of a template literal. -/
def templateLiteral (g : Grammar) : Parse (List (Option String)) := do
  match ← lexeme with
  | .templateWhole cooked =>
    advance
    return [cooked]
  | .templateHead cooked =>
    advance
    let rest ← templatePieces do
      let _ ← within (fun s => { s with allowIn := true }) g.expression
    return cooked :: rest
  | _ => unexpected

/-- A name or a member, which a value may be assigned to. -/
def isReference : Expr → Bool
  | .identifier _ | .member _ _ _ | .other _ .index | .other _ .privateMember => true
  | _ => false

/-- A target that is no pattern.  Parentheses around it do not count, and types around it
do not make a target of what is none. -/
def simpleTarget : Expr → Parse Expr
  | .wrapped _ .parentheses inner =>
    match inner with
    | .object _ _ | .array _ _ => stop (.invalid "assignment target")
    | inner => simpleTarget inner
  | e => if isReference e.peel then pure e else stop (.invalid "assignment target")

/-- Takes up the default of a shorthand member. -/
def takeDefault (start : Nat) : Parse Unit :=
  modify fun c => { c with pendingDefaults := c.pendingDefaults.filter (· != start) }

/-- A rest target has to be the last and may not be followed by a comma. -/
def checkRest (start : Nat) (isLast : Bool) : Parse Unit := do
  if !isLast then stop (.misplaced "rest element")
  noteIf ((← get).trailingCommas.contains start) (.misplaced "`,`")

mutual

/-- Checks that an expression is an assignment target or a pattern of such. -/
def target : Expr → Parse Unit
  | .array span elements => elementTargets span.start elements
  | .object span members => memberTargets span.start members
  | e => do let _ ← simpleTarget e

/-- Checks a target that may have a default. -/
def targetWithDefault : Expr → Parse Unit
  | .assignment _ plain _ _ => noteIf (!plain) (.invalid "assignment target")
  | .array span elements => elementTargets span.start elements
  | .object span members => memberTargets span.start members
  | e => do let _ ← simpleTarget e

def elementTargets (start : Nat) : List Element → Parse Unit
  | [] => pure ()
  | .item e :: rest => do
    targetWithDefault e
    elementTargets start rest
  | .hole _ :: rest => elementTargets start rest
  | .spread _ e :: rest => do
    checkRest start rest.isEmpty
    target e
    elementTargets start rest

def memberTargets (start : Nat) : List Member → Parse Unit
  | [] => pure ()
  | .property span _ kind value :: rest => do
    if kind == .shorthand then takeDefault span.start else targetWithDefault value
    memberTargets start rest
  | .spread _ e :: rest => do
    checkRest start rest.isEmpty
    target e
    memberTargets start rest

end

/-- The target that an expression denotes on the left of an assignment. -/
def assignmentTarget (e : Expr) : Parse Expr := do
  match e with
  | .array _ _ | .object _ _ =>
    target e
    return e
  | e => simpleTarget e

end Parse

end Showcase.Script
