import Showcase.Script.Modules

namespace Showcase.Script

/-! # Statements -/

namespace Parse

def block (g : Grammar) : Parse Unit := do
  expect "\x7b"
  let _ ← bodyStatements g
  expect "\x7d"

def condition (g : Grammar) : Parse Unit := do
  expect "("
  let _ ← within (fun s => { s with allowIn := true }) g.expression
  expect ")"

/-- The only statement of a branch or loop. -/
def branch (g : Grammar) : Parse Unit := do
  let _ ← g.statement .single

/-- The rest of a loop with three parts, from its first semicolon on. -/
def countingLoop (g : Grammar) : Parse Unit := do
  expect ";"
  if !(← isAtAny [";", ")"]) then
    let _ ← within (fun s => { s with allowIn := true }) g.expression
  expect ";"
  if !(← isAt ")") then
    let _ ← within (fun s => { s with allowIn := true }) g.expression
  expect ")"
  branch g

/-- The rest of a loop over keys or values, from `in` or `of` on. -/
def iteratingLoop (g : Grammar) : Parse Unit := do
  if ← eat "in" then
    let _ ← within (fun s => { s with allowIn := true }) g.expression
  else
    expect "of"
    let _ ← within (fun s => { s with allowIn := true }) g.assignment
  expect ")"
  branch g

/-- The rest of a loop after the declaration in its head. -/
def declaredLoop (g : Grammar) (awaits isConstant : Bool) (values : List BoundValue) :
    Parse Unit := do
  if ← isAtAny ["in", "of"] then
    noteIf (awaits && (← isAt "in")) (.misplaced "`in`")
    iteratingLoop g
  else
    for v in values do
      if v.initial.isNone then
        match v.pattern with
        | .name _ => noteIf isConstant (.invalid "declaration without initializer")
        | _ => note (.invalid "destructuring declaration")
    noteIf awaits (.misplaced "`await`")
    countingLoop g

/-- A `for` loop. -/
def forStatement (g : Grammar) : Parse Unit := do
  expect "for"
  let awaits ← if ← isAt "await" then
    noteIf (!(← surroundings).awaits) (.misplaced "`await`")
    advance
    pure true
  else pure false
  expect "("
  if ← isAt ";" then
    noteIf awaits (.misplaced "`await`")
    return ← countingLoop g
  if (← isAtAny ["const", "var"]) || (← isAtLet) then
    let isConstant ← isAt "const"
    advance
    let values ← within (fun s => { s with allowIn := false }) (declarators g isConstant false)
    return ← declaredLoop g awaits isConstant values
  if (← isAtUsing) && !(← nextIs (isAt "of")) then
    let values ← within (fun s => { s with allowIn := false }) (usingDeclarators g false)
    return ← declaredLoop g awaits false values
  let beginsLet ← isAt "let"
  let beginsAsync ← isAt "async"
  let first ← within (fun s => { s with allowIn := false }) g.expression
  if ← isAt "in" then
    let _ ← assignmentTarget first
    noteIf awaits (.misplaced "`in`")
    iteratingLoop g
  else if ← isAt "of" then
    let isName := match first with | .identifier _ => true | _ => false
    noteIf (!awaits && beginsAsync && isName) (.misplaced "`async`")
    noteIf beginsLet .unexpectedToken
    let _ ← assignmentTarget first
    iteratingLoop g
  else
    noteIf awaits (.misplaced "`await`")
    countingLoop g

/-- A case of a `switch`. -/
def switchCase (g : Grammar) : Parse Unit := do
  if ← eat "default" then pure ()
  else if ← eat "case" then
    let _ ← g.expression
  else unexpected
  expect ":"
  let _ ← many do
    if (← isAtAny ["case", "default", "\x7d"]) || (← isAtEnd) then return none
    return some (← g.statement .list)

/-- A `try` statement. -/
def tryStatement (g : Grammar) : Parse Unit := do
  expect "try"
  block g
  let handler ← if ← eat "catch" then
    if ← eat "(" then
      let _ ← g.pattern
      annotation g
      expect ")"
    block g
    pure true
  else pure false
  let finalizer ← if ← eat "finally" then
    block g
    pure true
  else pure false
  noteIf (!handler && !finalizer) (.expected "catch" (← lexeme).describe)

/-- An expression statement, or a labelled statement. -/
def expressionStatement (g : Grammar) : Parse Statement := do
  let start ← offset
  let e ← within (fun s => { s with allowIn := true }) g.expression
  match e with
  | .identifier _ =>
    if ← eat ":" then
      let _ ← g.statement .single
      return .other
  | _ => pure ()
  semicolon
  return .expression (← spanFrom start) e

/-- A statement after decorators, which has to be a class. -/
def decoratedStatement (g : Grammar) : Parse Statement := do
  let _ ← decorators g
  if ← isAt "export" then
    let decoratable ← lookahead do
      advance
      let _ ← eat "default"
      let _ ← eat "abstract"
      isAtAny ["class", "@"]
    noteIf (!decoratable) (.misplaced "decorator")
    exportStatement g
  else
    if ← isTyped then
      let _ ← many do
        if ← isAtAny ["abstract", "declare"] then
          advance
          return some ()
        return none
    return .declaration (.ofClass (← classRest g))

/-- Notes a declaration that cannot be the only statement of a branch. -/
def checkPlace (place : StatementPlace) : Parse Unit :=
  noteIf (place == .single) (.misplaced "declaration")

def statementBody (g : Grammar) (place : StatementPlace) : Parse Statement := do
  let plainly (p : Parse Unit) : Parse Statement := do
    p
    return .other
  match ← lexeme with
  | .mark "\x7b" => plainly (block g)
  | .mark ";" => plainly advance
  | .mark "@" => decoratedStatement g
  | .word text false =>
    match text with
    | "if" => plainly do
      advance
      condition g
      branch g
      if ← eat "else" then branch g
    | "do" => plainly do
      advance
      branch g
      expect "while"
      condition g
      let _ ← eat ";"
    | "while" | "with" => plainly do
      advance
      condition g
      branch g
    | "for" => plainly (forStatement g)
    | "continue" | "break" => plainly do
      advance
      if !(← canEndStatement) then
        let _ ← name
      semicolon
    | "switch" => plainly do
      advance
      condition g
      expect "\x7b"
      let _ ← many do
        if (← isAt "\x7d") || (← isAtEnd) then return none
        switchCase g
        return some ()
      expect "\x7d"
    | "return" => plainly do
      advance
      if !(← canEndStatement) then
        let _ ← within (fun s => { s with allowIn := true }) g.expression
      semicolon
      noteIf (!(← surroundings).returns) (.misplaced "`return`")
    | "throw" => plainly do
      advance
      noteIf (← afterBreak) (.misplaced "line break")
      let _ ← g.expression
      semicolon
    | "try" => plainly (tryStatement g)
    | "debugger" => plainly do
      advance
      semicolon
    | "class" =>
      checkPlace place
      return .declaration (.ofClass (← classRest g))
    | "export" => exportStatement g
    | "function" => return .declaration (.function (← functionDeclaration g place true))
    | "var" => return .declaration (← variableStatement g)
    | "const" =>
      if (← isTyped) && (← nextIs (isAt "enum")) then
        advance
        enumRest g
        return .declaration .typed
      checkPlace place
      return .declaration (← variableStatement g)
    | "import" =>
      if ← nextIs (isAtAny ["(", "."]) then expressionStatement g else importStatement
    | "async" =>
      if ← isAtFunction then
        return .declaration (.function (← functionDeclaration g place true))
      expressionStatement g
    | "let" =>
      if ← isAtLet then
        checkPlace place
        return .declaration (← variableStatement g)
      expressionStatement g
    | "using" | "await" =>
      if ← isAtUsing then
        checkPlace place
        let values ← usingDeclarators g true
        semicolon
        return .declaration (.declarators (namedDeclarators values))
      expressionStatement g
    | _ =>
      if (← isTyped) && (text == "enum" || text == "global" || ["interface", "type", "module",
          "namespace"].contains text || declarationModifiers.contains text) then
        if ← isAtTypedDeclaration then return .declaration (← typedDeclaration g place)
      expressionStatement g
  | _ => expressionStatement g

end Parse

end Showcase.Script
