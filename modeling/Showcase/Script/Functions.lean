import Showcase.Script.Types

namespace Showcase.Script

/-! # Functions and classes -/

namespace Parse

/-- Statements up to the closing brace of a body. -/
def bodyStatements (g : Grammar) : Parse (List Statement) :=
  many do
    if (← isAt "\x7d") || (← isAtEnd) then return none
    return some (← g.statement .list)

/-- The body of a function, with its braces. -/
def functionBody (g : Grammar) : Parse Unit := do
  expect "\x7b"
  let _ ← within (fun s => { s with returns := true, allowIn := true, decorator := false })
    (bodyStatements g)
  expect "\x7d"

/-- What follows the name of a function: its parameters, its return type and its body.
In a typed text a function may do without a body. -/
def functionRest (g : Grammar) (isAsync isGenerator : Bool) : Parse (Parameters × Bool) := do
  let (params, hasBody) ← within
    (fun s => { s with allowIn := true, awaits := isAsync, yields := isGenerator }) do
      let _ ← typeParameters g
      let params ← parameters g
      let _ ← returnType g
      if ← isAt "\x7b" then
        functionBody g
        return (params, true)
      else return (params, false)
  if !hasBody then
    if !(← isTyped) then stop (.expected "\x7b" (← lexeme).describe)
  return (params, hasBody)

/-- A function without a name of its own, as the value of a member. -/
def method (g : Grammar) (isAsync isGenerator : Bool) : Parse Parameters := do
  let (params, hasBody) ← functionRest g isAsync isGenerator
  if !hasBody then semicolon
  return params

def checkGetter (params : Parameters) : Parse Unit :=
  noteIf (params.count != 0 || params.hasRest) (.misplaced "getter parameter")

def checkSetter (params : Parameters) : Parse Unit := do
  noteIf (params.hasRest || params.count != 1) (.invalid "setter parameters")
  noteIf ((← isTyped) && params.firstIsDefaulted) (.misplaced "initializer")

/-- Whether a function begins at the cursor. -/
def isAtFunction : Parse Bool := do
  if ← isAt "function" then return true
  if ← isAt "async" then return ← nextOnLineIs (isAt "function")
  return false

/-- The name of a function, checked in the surroundings that apply to it. -/
def functionName (isExpression isAsync isGenerator : Bool) : Parse (Option Identifier) := do
  if ← isAtName then
    let id ← within (fun s =>
      if isExpression then { s with awaits := isAsync, yields := isGenerator } else s) name
    return some id
  return none

def functionExpression (g : Grammar) : Parse Expr := do
  let start ← offset
  let isAsync ← eat "async"
  expect "function"
  let isGenerator ← eat "*"
  let _ ← functionName true isAsync isGenerator
  let (_, hasBody) ← functionRest g isAsync isGenerator
  let span ← spanFrom start
  if !hasBody then semicolon
  return .definition span .function

/-- A function declaration.  Only a default export may go without a name. -/
def functionDeclaration (g : Grammar) (place : StatementPlace) (named : Bool) :
    Parse (Option Identifier) := do
  let isAsync ← eat "async"
  expect "function"
  let isGenerator ← eat "*"
  let id ← functionName false isAsync isGenerator
  if id.isNone && named then
    if ← isAtWord then stop (.expected "identifier" (← lexeme).describe)
    noteIf (← isAt "(") (.expected "function name" "(")
  let (_, hasBody) ← functionRest g isAsync isGenerator
  if !hasBody then semicolon
  noteIf (place == .single && isAsync) (.misplaced "async function")
  noteIf (place == .single && isGenerator) (.misplaced "generator")
  return id

/-- The key of a class member: whether it is private, and its static name. -/
def classKey (g : Grammar) : Parse (Bool × Option String) := do
  match ← lexeme with
  | .privateName text =>
    advance
    return (true, some text)
  | _ =>
    let (k, _) ← key g
    match k with
    | .name text | .string text => return (false, some text)
    | _ => return (false, none)

/-- Modifiers of class members that need types. -/
def typedMemberModifiers : List String :=
  ["abstract", "declare", "override", "private", "protected", "public", "readonly"]

def classMember (g : Grammar) : Parse Unit := do
  let _ ← decorators g
  let words ← modifiers true
  let typed ← isTyped
  noteIf (words.any fun w => typedMemberModifiers.contains w && !typed) (.misplaced "modifier")
  noteIf (words.any fun w => ["const", "export", "in", "out"].contains w) (.misplaced "modifier")
  noteIf (words.eraseDups.length != words.length) (.misplaced "modifier")
  let isAsync := words.contains "async"
  let isStatic := words.contains "static"
  if (← isAt "static") && (← nextIs (isAt "\x7b")) then
    advance
    expect "\x7b"
    let _ ← within (fun s => { s with allowIn := true, yields := false, returns := false })
      (bodyStatements g)
    expect "\x7d"
    return
  let checkAccessor (keyInfo : Bool × Option String) : Parse Unit := do
    noteIf (!isStatic && keyInfo == (false, some "constructor")) (.invalid "constructor")
    noteIf (isStatic && keyInfo == (false, some "prototype")) (.invalid "static member")
    noteIf (keyInfo == (true, some "constructor")) (.invalid "private name")
  if ← accessorWord "get" then
    let k ← classKey g
    checkAccessor k
    noteIf isAsync (.misplaced "modifier")
    let params ← method g false false
    checkGetter params
  else if ← accessorWord "set" then
    let k ← classKey g
    checkAccessor k
    noteIf isAsync (.misplaced "modifier")
    let params ← method g false false
    checkSetter params
  else if typed && (← isAtIndexSignature) then
    noteIf (words.any fun w => !(["readonly", "static"].contains w)) (.misplaced "modifier")
    indexSignature g
  else
    let isGenerator ← eat "*"
    let (isPrivate, named) ← classKey g
    noteIf (isPrivate && named == some "constructor") (.invalid "private name")
    noteIf (isStatic && !isPrivate && named == some "prototype") (.invalid "static member")
    let isConstructor := !isStatic && !isPrivate && named == some "constructor"
    if typed then
      let _ ← eat "?"
    if isGenerator || (← isAtAny ["(", "<"]) then
      noteIf (isConstructor && (isAsync || isGenerator)) (.invalid "constructor")
      let _ ← method g isAsync isGenerator
    else
      noteIf isConstructor (.invalid "field")
      noteIf isAsync (.misplaced "modifier")
      if typed then
        let _ ← eat "!"
      annotation g
      let _ ← within (fun s => { s with yields := false, awaits := false }) (initializer g)
      semicolon

def heritage (g : Grammar) : Parse Unit := do
  let step : Bool × Bool → Parse (Option (Bool × Bool)) := fun (hasBase, hasInterfaces) => do
    if ← isAt "extends" then
      noteIf (hasBase || hasInterfaces) (.misplaced "extends clause")
      advance
      let _ ← g.leftHandSide
      if (← isTyped) && (← isAt "<") then typeArguments g
      let more ← many do
        if ← eat "," then
          let _ ← g.leftHandSide
          if (← isTyped) && (← isAt "<") then typeArguments g
          return some ()
        return none
      noteIf (!more.isEmpty) (.misplaced "base class")
      return some (true, hasInterfaces)
    if ← isAt "implements" then
      noteIf (hasInterfaces || !(← isTyped)) (.misplaced "implements clause")
      advance
      let item : Parse Unit := do
        typeReference
        typeArgumentsOnLine g
      item
      let _ ← many do
        if ← eat "," then
          item
          return some ()
        return none
      return some (hasBase, true)
    return none
  let _ ← iterate step (false, false)

/-- A class from its keyword on; the answer is its name. -/
def classRest (g : Grammar) : Parse (Option Identifier) := do
  expect "class"
  let id ← if (← isAtName) && !(← isAt "implements") then some <$> name else pure none
  let _ ← typeParameters g
  heritage g
  expect "\x7b"
  let _ ← within (fun s => { s with decorator := false }) <| many do
    if (← isAt "\x7d") || (← isAtEnd) then return none
    if ← eat ";" then return some ()
    classMember g
    return some ()
  expect "\x7d"
  return id

end Parse

end Showcase.Script
