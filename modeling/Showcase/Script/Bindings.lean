import Showcase.Script.Grammar

namespace Showcase.Script

/-! # Keys, modifiers, patterns and parameters -/

namespace Parse

/-- Words that can stand in front of a declaration, a member or a parameter. -/
def modifierWords : List String :=
  ["abstract", "accessor", "async", "const", "declare", "export", "in", "out", "override",
   "private", "protected", "public", "readonly", "static"]

/-- Whether the current token is something that a modifier can stand in front of. -/
def isAtModified : Parse Bool := do
  match ← lexeme with
  | .word _ _ | .privateName _ | .string _ | .number _ | .bigint => pure true
  | .mark text => pure (["[", "\x7b", "*", "..."].contains text)
  | _ => pure false

/-- Whether the current word is a modifier of what follows.  Some modifiers have to
stand on the same line. -/
def isAtModifier : Parse Bool := do
  match ← lexeme with
  | .word "const" false => nextOnLineIs (isAt "enum")
  | .word "static" false | .word "accessor" false => nextIs isAtModified
  | .word text false =>
    if modifierWords.contains text then nextOnLineIs isAtModified else pure false
  | _ => pure false

/-- The modifiers at the cursor.  With `blocks`, `static` before a brace is none. -/
def modifiers (blocks : Bool) : Parse (List String) :=
  many do
    if !(← isAtModifier) then return none
    if blocks && (← isAt "static") && (← nextIs (isAt "\x7b")) then return none
    match ← lexeme with
    | .word text _ =>
      advance
      return some text
    | _ => return none

/-- Moves past `get` or `set` if it begins an accessor. -/
def accessorWord (word : String) : Parse Bool := do
  if (← isAt word) && (← nextIs isAtModified) then
    advance
    pure true
  else pure false

/-- The key of a member; the second part is its identifier if it is a plain name. -/
def key (g : Grammar) : Parse (Key × Option Identifier) := do
  match ← lexeme with
  | .string value =>
    advance
    return (.string value, none)
  | .number value =>
    advance
    return (.number value, none)
  | .bigint =>
    advance
    return (.bigint, none)
  | .mark "[" =>
    advance
    let _ ← within (fun s => { s with allowIn := true }) g.assignment
    expect "]"
    return (.computed, none)
  | _ =>
    let id ← anyWord
    return (.name id.name, some id)

/-- A type after a colon, in a typed text. -/
def annotation (g : Grammar) : Parse Unit := do
  if ← isTyped <&&> eat ":" then g.type

def typeOrPredicate (g : Grammar) : Parse Unit := do
  if (← isAtName) && (← nextOnLineIs (isAt "is")) then
    advance
    advance
    g.type
  else g.type

/-- The type that a function returns, in a typed text.  The answer tells whether there
is one. -/
def returnType (g : Grammar) : Parse Bool := do
  if ← isTyped <&&> eat ":" then
    typeOrPredicate g
    return true
  return false

/-- An initial value after an equals sign. -/
def initializer (g : Grammar) : Parse (Option Expr) := do
  if ← eat "=" then
    let e ← within (fun s => { s with allowIn := true }) g.assignment
    return some e
  return none

/-- A binding pattern that may be optional, typed and initialized. -/
def patternWithDefault (g : Grammar) : Parse Pattern := do
  let start ← offset
  let p ← g.pattern
  if ← isTyped then
    let _ ← eat "?"
  annotation g
  match ← initializer g with
  | some _ => return .defaulted (← spanFrom start)
  | none => return p

/-- The rest of a pattern or of a parameter list, after the dots. -/
def restPattern (g : Grammar) : Parse Pattern := do
  expect "..."
  let p ← g.pattern
  if ← isTyped <&&> eat "?" then note (.misplaced "`?`")
  annotation g
  match ← initializer g with
  | some _ => note (.misplaced "initializer")
  | none => pure ()
  return p

/-- Items up to `close` of which only the last one may be a rest item. -/
def listWithRest (close : String) (item : Parse α) (rest : Parse β) : Parse (List α × Option β) := do
  let step : List α × Option β × Bool × Bool → Parse (Option (List α × Option β × Bool × Bool)) :=
    fun (acc, last, first, done) => do
      if done then return none
      if ← isAt close then return some (acc, last, first, true)
      if !first then
        expect ","
        if ← isAt close then
          noteIf last.isSome (.misplaced "`,`")
          return some (acc, last, first, true)
      noteIf last.isSome (.misplaced "rest element")
      if ← isAt "..." then
        let r ← rest
        return some (acc, some r, false, false)
      let a ← item
      return some (a :: acc, last, false, false)
  let (acc, last, _, _) ← iterate step ([], none, true, false)
  return (acc.reverse, last)

def patternProperty (g : Grammar) : Parse Unit := do
  let named ← isAtName
  let (_, id) ← key g
  match id with
  | some id =>
    if named && !(← isAt ":") then
      checkName id.name
      let _ ← initializer g
    else
      expect ":"
      let _ ← patternWithDefault g
  | none =>
    expect ":"
    let _ ← patternWithDefault g

def bindingPattern (g : Grammar) : Parse Pattern := do
  let start ← offset
  if ← isAt "\x7b" then
    advance
    let (_, last) ← listWithRest "\x7d" (patternProperty g) (restPattern g)
    match last with
    | some (.name _) | none => pure ()
    | some _ => stop (.invalid "rest element")
    expect "\x7d"
    return .structured (← spanFrom start)
  else if ← isAt "[" then
    advance
    let element : Parse Unit := do
      if ← isAt "," then pure ()
      else
        let _ ← patternWithDefault g
    let _ ← listWithRest "]" element (restPattern g)
    expect "]"
    return .structured (← spanFrom start)
  else
    return .name (← name)

/-- Decorators; the answer is their number. -/
def decorators (g : Grammar) : Parse Nat := do
  let found ← many do
    if ← isAt "@" then
      advance
      let _ ← within (fun s => { s with decorator := true }) g.leftHandSide
      return some ()
    return none
  return found.length

/-- The parameters of a function. -/
structure Parameters where
  count : Nat
  hasRest : Bool
  hasReceiver : Bool
  firstIsDefaulted : Bool

def parameter (g : Grammar) : Parse Pattern := do
  let _ ← decorators g
  let words ← modifiers false
  let typed ← isTyped
  noteIf (words.any fun w =>
      !(typed && ["public", "private", "protected", "readonly", "override"].contains w))
    (.misplaced "parameter modifier")
  patternWithDefault g

def parameters (g : Grammar) : Parse Parameters := do
  expect "("
  let receiver ← if (← isTyped) && (← isAt "this") then
    advance
    annotation g
    if !(← isAt ")") then expect ","
    pure true
  else pure false
  let (items, last) ← listWithRest ")" (parameter g) do
    restPattern g
  expect ")"
  return {
    count := items.length
    hasRest := last.isSome
    hasReceiver := receiver
    firstIsDefaulted := match items.head? with
      | some (.defaulted _) => true
      | _ => false }

end Parse

end Showcase.Script
