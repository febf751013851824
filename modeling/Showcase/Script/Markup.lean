import Showcase.Script.Literals

namespace Showcase.Script

/-! # Markup

Elements and fragments of a markup text.  Only their form is checked: that tags are
closed by their own names and that braces hold expressions.
-/

namespace Parse

/-- Moves past the bracket that ends a tag.  Inside other markup, text follows. -/
def closeTag (nested : Bool) : Parse Unit := do
  if ← isAt ">" then
    if nested then advanceWith Lexer.markupChild else advance
  else stop (.expected ">" (← lexeme).describe)

/-- A name in which hyphens may stand. -/
def markupWord : Parse String := do
  if !(← isAtWord) then unexpected
  reread Lexer.markupNameFrom
  let id ← anyWord
  return id.name

/-- The name of an element: a word, a word in a namespace, or words after points. -/
def markupName : Parse String := do
  let first ← markupWord
  if ← eat ":" then
    let second ← markupWord
    return first ++ ":" ++ second
  let rest ← many do
    if ← eat "." then
      let word ← markupWord
      noteIf (word.contains '-') .unexpectedToken
      return some ("." ++ word)
    return none
  noteIf (!rest.isEmpty && first.contains '-') .unexpectedToken
  return first ++ String.join rest

/-- The expression in a pair of braces.  Comma expressions are not allowed. -/
def markupExpression (g : Grammar) : Parse Unit := do
  match ← within (fun s => { s with allowIn := true, decorator := false }) g.expression with
  | .other _ .sequence => stop (.misplaced "`,`")
  | _ => pure ()

def attributeValue (g : Grammar) : Parse Unit := do
  match ← lexeme with
  | .string _ => advance
  | .mark "\x7b" =>
    advance
    if ← isAt "\x7d" then stop (.misplaced "`\x7d`")
    markupExpression g
    expect "\x7d"
  | .mark "<" => g.markupElement false
  | _ => unexpected

/-- An attribute, or attributes spread from an object. -/
def attribute_ (g : Grammar) : Parse Unit := do
  if ← eat "\x7b" then
    expect "..."
    let _ ← within (fun s => { s with allowIn := true }) g.assignment
    expect "\x7d"
  else
    let _ ← markupWord
    if ← eat ":" then
      let _ ← markupWord
    if ← isAt "=" then
      advanceWith Lexer.markupValue
      attributeValue g

/-- What stands between an opening and a closing tag.  The cursor ends at the slash of
the closing tag. -/
def markupChildren (g : Grammar) : Parse Unit := do
  let step : Unit → Parse (Option Unit) := fun _ => do
    match ← lexeme with
    | .markupText =>
      advanceWith Lexer.markupChild
      return some ()
    | .mark "\x7b" =>
      advance
      if ← isAt "\x7d" then pure ()
      else if ← eat "..." then markupExpression g
      else markupExpression g
      if ← isAt "\x7d" then advanceWith Lexer.markupChild
      else stop (.expected "\x7d" (← lexeme).describe)
      return some ()
    | .mark "<" =>
      if ← nextIs (isAt "/") then
        advance
        return none
      g.markupElement true
      return some ()
    | _ => unexpected
  iterate step ()

/-- An element or a fragment.  `nested` if it stands inside other markup. -/
def markupBody (g : Grammar) (nested : Bool) : Parse Unit := do
  expect "<"
  if ← isAt ">" then
    advanceWith Lexer.markupChild
    markupChildren g
    expect "/"
    closeTag nested
  else if ← isAtWord then
    let opening ← markupName
    if ← isTyped then
      splitAngle
      if ← isAt "<" then typeArguments g
    let _ ← many do
      if (← isAtAny [">", "/"]) || (← isAtEnd) then return none
      attribute_ g
      return some ()
    if ← eat "/" then closeTag nested
    else
      closeTag true
      markupChildren g
      expect "/"
      let closing ← markupName
      if opening != closing then stop (.expected opening closing)
      closeTag nested
  else unexpected

end Parse

end Showcase.Script
