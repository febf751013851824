import Showcase.Script.Bindings

namespace Showcase.Script

/-! # Types

Types are checked for their form only; nothing of them is kept.
-/

namespace Parse

/-- A list of types between angle brackets. -/
def typeArguments (g : Grammar) : Parse Unit := do
  expect "<"
  let (types, _) ← commaList ">" g.type
  noteIf types.isEmpty (.invalid "type argument list")
  expect ">"

/-- Makes a shift mark at the cursor an opening angle bracket. -/
def splitAngle : Parse Unit := do
  if ← isAtAny ["<<", "<=", "<<="] then reread Lexer.firstOf

def typeParameter (g : Grammar) : Parse Unit := do
  let _ ← many do
    if (← isAtAny ["in", "out"]) && (← nextOnLineIs isAtWord) then
      advance
      return some ()
    if ← isAt "const" then
      advance
      return some ()
    return none
  let _ ← name
  if ← eat "extends" then g.type
  if ← eat "=" then g.type

/-- Type parameters between angle brackets, in a typed text, if there are any. -/
def typeParameters (g : Grammar) : Parse Bool := do
  if (← isTyped) && (← isAt "<") then
    advance
    let (items, _) ← commaList ">" (typeParameter g)
    noteIf items.isEmpty (.invalid "type parameter list")
    expect ">"
    return true
  return false

/-- Whether a type can begin at the cursor. -/
def isAtType : Parse Bool := do
  match ← lexeme with
  | .word text _ =>
    pure (!reservedWords.contains text ||
      ["void", "null", "this", "typeof", "true", "false", "new", "import", "function"].contains text)
  | .string _ | .number _ | .bigint | .templateWhole _ | .templateHead _ => pure true
  | .mark "-" => nextIs isAtNumber
  | .mark text => pure (["\x7b", "[", "<", "|", "&", "(", "...", "?", "!", "*"].contains text)
  | _ => pure false

/-- Moves past the beginning of a parameter; `false` if there is none. -/
def passParameterStart (g : Grammar) : Parse Bool := do
  let _ ← modifiers false
  if (← isAtName) || (← isAt "this") then
    advance
    return true
  if ← isAtAny ["[", "\x7b"] then
    let before := (← get).problems.length
    let _ ← g.pattern
    return (← get).problems.length == before
  return false

/-- Whether an opening parenthesis at the cursor begins a function type for certain. -/
def isAtFunctionType (g : Grammar) : Parse Bool :=
  lookahead do
    advance
    if ← isAtAny [")", "..."] then return true
    if ← passParameterStart g then
      if ← isAtAny [":", ",", "?", "="] then return true
      if ← eat ")" then return ← isAt "=>"
    return false

/-- A function type, or a constructor type after `new`. -/
def functionType (g : Grammar) : Parse Unit := do
  let _ ← eat "abstract"
  let _ ← eat "new"
  let _ ← typeParameters g
  let _ ← parameters g
  expect "=>"
  typeOrPredicate g

def isAtFunctionLikeType (g : Grammar) : Parse Bool := do
  if ← isAtAny ["<", "new"] then return true
  if ← isAt "abstract" then return ← nextIs (isAt "new")
  if ← isAt "(" then return ← isAtFunctionType g
  return false

/-- The separator after a member of a type. -/
def memberSeparator : Parse Unit := do
  if ← eat "," then pure () else semicolon

/-- Whether the bracket at the cursor begins an index signature. -/
def isAtIndexSignature : Parse Bool := do
  if !(← isAt "[") then return false
  lookahead do
    advance
    if ← isAtAny ["...", "]"] then return true
    if ← isAtModifier then
      advance
      if ← isAtName then return true
    else if !(← isAtName) then return false
    else advance
    if ← isAtAny [":", ","] then return true
    if !(← isAt "?") then return false
    advance
    isAtAny [":", ",", "]"]

def indexSignature (g : Grammar) : Parse Unit := do
  expect "["
  let _ ← name
  expect ":"
  g.type
  let _ ← eat ","
  expect "]"
  if ← eat ":" then g.type else note (.expected ":" "")
  memberSeparator

def typeMember (g : Grammar) : Parse Unit := do
  let signature : Parse Unit := do
    let _ ← typeParameters g
    let _ ← parameters g
    let _ ← returnType g
    memberSeparator
  if ← isAtAny ["(", "<"] then signature
  else if (← isAt "new") && (← nextIs (isAtAny ["(", "<"])) then
    advance
    signature
  else
    let words ← modifiers false
    noteIf (words.any (· != "readonly")) (.misplaced "modifier")
    if ← accessorWord "get" then
      let _ ← key g
      signature
    else if ← accessorWord "set" then
      let _ ← key g
      signature
    else if ← isAtIndexSignature then indexSignature g
    else
      let _ ← key g
      let _ ← eat "?"
      if ← isAtAny ["(", "<"] then signature
      else
        annotation g
        memberSeparator

/-- The members of an object type between braces. -/
def typeMembers (g : Grammar) : Parse Unit := do
  expect "\x7b"
  let _ ← many do
    if (← isAt "\x7d") || (← isAtEnd) then return none
    typeMember g
    return some ()
  expect "\x7d"

/-- Whether the brace at the cursor begins a mapped type. -/
def isAtMappedType : Parse Bool :=
  lookahead do
    advance
    if ← isAtAny ["+", "-"] then
      advance
      return ← isAt "readonly"
    let _ ← eat "readonly"
    if !(← eat "[") then return false
    if !(← isAtWord) then return false
    advance
    isAt "in"

def mappedType (g : Grammar) : Parse Unit := do
  expect "\x7b"
  if ← isAtAny ["+", "-"] then
    advance
    expect "readonly"
  else
    let _ ← eat "readonly"
  expect "["
  let _ ← anyWord
  expect "in"
  g.type
  if ← eat "as" then g.type
  expect "]"
  if ← isAtAny ["+", "-"] then
    advance
    expect "?"
  else
    let _ ← eat "?"
  annotation g
  semicolon
  expect "\x7d"

def tupleElement (g : Grammar) : Parse Unit := do
  let labelled ← lookahead do
    let _ ← eat "..."
    if !(← isAtWord) then return false
    advance
    if ← isAt ":" then return true
    if ← eat "?" then return ← isAt ":"
    return false
  if labelled then
    let _ ← eat "..."
    let _ ← anyWord
    let _ ← eat "?"
    expect ":"
    g.type
  else if ← eat "..." then g.type
  else
    g.type
    let _ ← eat "?"

/-- A name with further names after points. -/
def entityName : Parse Unit := do
  if ← isAt "this" then advance else
    let _ ← name
  let _ ← many do
    if ← eat "." then
      match ← lexeme with
      | .privateName _ => advance
      | _ =>
        let _ ← anyWord
      return some ()
    return none

/-- Type arguments on the same line, if there are any. -/
def typeArgumentsOnLine (g : Grammar) : Parse Unit := do
  if !(← afterBreak) then
    splitAngle
    if ← isAt "<" then typeArguments g

def typeReference : Parse Unit := do
  let _ ← anyWord
  let _ ← many do
    if ← eat "." then
      let _ ← anyWord
      return some ()
    return none

def importType (g : Grammar) : Parse Unit := do
  let _ ← eat "typeof"
  expect "import"
  expect "("
  g.type
  if ← eat "," then
    if !(← isAt ")") then
      let _ ← g.assignment
      let _ ← eat ","
  expect ")"
  let _ ← many do
    if ← eat "." then
      let _ ← anyWord
      return some ()
    return none
  typeArgumentsOnLine g

/-- The substitutions and pieces of a template after its head, over an item parser. -/
def templatePieces (item : Parse Unit) : Parse (List (Option String)) := do
  let step : List (Option String) × Bool → Parse (Option (List (Option String) × Bool)) :=
    fun (acc, done) => do
      if done then return none
      item
      if !(← isAt "\x7d") then stop (.expected "\x7d" (← lexeme).describe)
      reread Lexer.templateFrom
      match ← lexeme with
      | .templateMiddle cooked =>
        advance
        return some (cooked :: acc, false)
      | .templateTail cooked =>
        advance
        return some (cooked :: acc, true)
      | _ => unexpected
  let (acc, _) ← iterate step ([], false)
  return acc.reverse

/-- A type without operators. -/
def primaryType (g : Grammar) : Parse Unit := do
  let namedType : Parse Unit := do
    typeReference
    typeArgumentsOnLine g
  match ← lexeme with
  | .string _ | .number _ | .bigint | .templateWhole _ => advance
  | .templateHead _ =>
    advance
    let _ ← templatePieces g.type
  | .mark "-" =>
    if ← nextIs isAtNumber then
      advance
      advance
    else unexpected
  | .mark "\x7b" =>
    if ← isAtMappedType then mappedType g else typeMembers g
  | .mark "[" =>
    advance
    let _ ← commaList "]" (tupleElement g)
    expect "]"
  | .mark "(" =>
    advance
    g.type
    expect ")"
  | .word text _ =>
    if ["void", "null", "true", "false"].contains text then advance
    else if text == "this" then
      advance
      if (← isAt "is") && !(← afterBreak) then
        advance
        g.type
    else if text == "typeof" then
      if ← nextIs (isAt "import") then importType g
      else
        advance
        entityName
        typeArgumentsOnLine g
    else if text == "import" then importType g
    else if text == "asserts" then
      if ← nextOnLineIs (do return (← isAtName) || (← isAt "this")) then
        advance
        advance
        if (← isAt "is") && !(← afterBreak) then
          advance
          g.type
      else namedType
    else namedType
  | _ => unexpected

/-- A type with array and index suffixes. -/
def suffixedType (g : Grammar) : Parse Unit := do
  primaryType g
  let _ ← many do
    if (← isAt "[") && !(← afterBreak) then
      advance
      if ← isAtType then g.type
      expect "]"
      return some ()
    return none

/-- A type under prefix operators. -/
def prefixedType (g : Grammar) : Parse Unit := do
  if ← isAtAny ["keyof", "unique", "readonly"] then
    advance
    g.operatorType
  else if ← eat "infer" then
    let _ ← name
    let disallowed := (← surroundings).noConditional
    let _ ← attempt do
      expect "extends"
      within (fun s => { s with noConditional := true }) g.type
      if !disallowed && (← isAt "?") then unexpected
  else within (fun s => { s with noConditional := false }) (suffixedType g)

/-- Types joined by one operator, which may stand in front of the first one too. -/
def joinedTypes (operator : String) (g : Grammar) (operand : Parse Unit) : Parse Unit := do
  let item : Parse Unit := do
    if ← isAtFunctionLikeType g then
      note (.misplaced "function type")
      functionType g
    else operand
  if ← eat operator then item else operand
  let _ ← many do
    if ← eat operator then
      item
      return some ()
    return none

def typeBody (g : Grammar) : Parse Unit := do
  if ← isAtFunctionLikeType g then functionType g
  else
    joinedTypes "|" g (joinedTypes "&" g g.operatorType)
    if !(← surroundings).noConditional && !(← afterBreak) && (← isAt "extends") then
      advance
      within (fun s => { s with noConditional := true }) g.type
      expect "?"
      within (fun s => { s with noConditional := false }) g.type
      expect ":"
      within (fun s => { s with noConditional := false }) g.type

end Parse

end Showcase.Script
