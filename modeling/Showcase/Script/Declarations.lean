import Showcase.Script.Expressions

namespace Showcase.Script

/-! # Declarations -/

namespace Parse

/-- What a variable declarator binds. -/
structure BoundValue where
  pattern : Pattern
  initial : Option Expr

/-- What a declarator binds, with its type.  A name reaches to the end of its type. -/
def declaredPattern (g : Grammar) : Parse Pattern := do
  let pattern ← g.pattern
  if !(← isTyped) then return pattern
  match pattern with
  | .name id =>
    if (← isAt "!") && !(← afterBreak) then advance
    let _ ← eat "?"
    if ← isAt ":" then
      annotation g
      return .name { id with span := ← spanFrom id.span.start }
    return pattern
  | _ =>
    let _ ← eat "?"
    annotation g
    return pattern

/-- One declarator.  With `complete`, constants and patterns need an initial value. -/
def declarator (g : Grammar) (isConstant complete : Bool) : Parse BoundValue := do
  let pattern ← declaredPattern g
  let initial ← if ← eat "=" then some <$> g.assignment else pure none
  if complete && initial.isNone && !(← surroundings).ambient then
    match pattern with
    | .name _ => noteIf isConstant (.invalid "declaration without initializer")
    | _ => note (.invalid "destructuring declaration")
  return { pattern, initial }

def declarators (g : Grammar) (isConstant complete : Bool) : Parse (List BoundValue) := do
  let first ← declarator g isConstant complete
  let rest ← many do
    if ← eat "," then return some (← declarator g isConstant complete)
    return none
  return first :: rest

/-- The declarators that bind a plain name. -/
def namedDeclarators (values : List BoundValue) : List Declarator :=
  values.filterMap fun v =>
    match v.pattern with
    | .name id => some { name := id, initial := v.initial }
    | _ => none

def variableStatement (g : Grammar) : Parse Declaration := do
  let isConstant ← isAt "const"
  advance
  let values ← declarators g isConstant true
  semicolon
  return .declarators (namedDeclarators values)

/-- Whether `using` begins a declaration. -/
def isAtUsing : Parse Bool := do
  if ← isAt "using" then return ← nextOnLineIs isAtName
  if ← isAt "await" then
    return ← nextOnLineIs (do
      if ← isAt "using" then nextOnLineIs isAtName else return false)
  return false

/-- The declarators of a `using` declaration, from its keyword on. -/
def usingDeclarators (g : Grammar) (complete : Bool) : Parse (List BoundValue) := do
  let _ ← eat "await"
  expect "using"
  let values ← declarators g false false
  for v in values do
    match v.pattern with
    | .name _ => pure ()
    | _ => note (.invalid "using declaration")
    noteIf (complete && v.initial.isNone) (.invalid "using declaration")
  return values

/-- Whether a word after `let` makes it a declaration. -/
def isAtLet : Parse Bool := do
  if !(← isAt "let") then return false
  nextIs do
    match ← lexeme with
    | .mark text => return text == "\x7b" || text == "["
    | .word text _ => return text != "in" && text != "instanceof"
    | _ => return false

/-- Whether a declaration of the typed language begins at the cursor: the modifiers in
front of it have to stand on one line with it. -/
def isAtTypedDeclaration : Parse Bool :=
  peek false do
    let step : Option Bool → Parse (Option (Option Bool)) := fun answer => do
      if answer.isSome then return none
      match ← lexeme with
      | .word text false =>
        if ["var", "let", "const", "function", "class", "enum"].contains text then
          return some (some true)
        else if ["interface", "type"].contains text then
          advance
          return some (some ((← isAtName) && !(← afterBreak)))
        else if ["module", "namespace"].contains text then
          advance
          return some (some (((← isAtName) || (← isAtString)) && !(← afterBreak)))
        else if ["abstract", "accessor", "async", "declare", "private", "protected", "public",
            "readonly"].contains text then
          advance
          if ← afterBreak then return some (some false)
          return some none
        else if text == "global" then
          advance
          if ← isAtAny ["as", "satisfies"] then return some (some false)
          return some (some ((← isAtAny ["\x7b", "export"]) || (← isAtName)))
        else if text == "import" then
          advance
          return some (some ((← isAtAny ["*", "\x7b"]) || (← isAtString) || (← isAtWord)))
        else if text == "static" then
          advance
          return some none
        else return some (some false)
      | _ => return some (some false)
    return (← iterate step none).getD false

/-- Type members of an interface with its name, parameters and base types. -/
def interfaceRest (g : Grammar) : Parse Unit := do
  expect "interface"
  let _ ← name
  let _ ← typeParameters g
  if ← eat "extends" then
    let item : Parse Unit := do
      typeReference
      typeArgumentsOnLine g
    item
    let _ ← many do
      if ← eat "," then
        item
        return some ()
      return none
  noteIf (← isAt "implements") (.misplaced "implements clause")
  typeMembers g

def typeAlias (g : Grammar) : Parse Unit := do
  expect "type"
  let _ ← name
  let _ ← typeParameters g
  expect "="
  g.type
  semicolon

/-- The name of a member of an enumeration.  In brackets, only a text may stand. -/
def enumKey (g : Grammar) : Parse Unit := do
  if ← eat "[" then
    let inner ← within (fun s => { s with allowIn := true }) g.assignment
    expect "]"
    match inner with
    | .string _ _ | .template _ [_] => pure ()
    | _ => note (.invalid "enum member")
  else
    match (← key g).1 with
    | .number _ | .bigint => note (.invalid "enum member")
    | _ => pure ()

def enumRest (g : Grammar) : Parse Unit := do
  expect "enum"
  let _ ← name
  expect "\x7b"
  let member : Parse Unit := do
    enumKey g
    let _ ← initializer g
  let _ ← commaList "\x7d" member
  expect "\x7d"

/-- The body of a namespace, with its braces. -/
def namespaceBody (g : Grammar) : Parse Unit := do
  expect "\x7b"
  let _ ← bodyStatements g
  expect "\x7d"

/-- A namespace, a module or the global scope, from its keyword on. -/
def namespaceRest (g : Grammar) : Parse Unit := do
  if ← eat "global" then namespaceBody g
  else
    advance
    if ← isAtString then
      advance
      if ← isAt "\x7b" then namespaceBody g else semicolon
    else
      let _ ← name
      let _ ← many do
        if ← eat "." then
          let _ ← anyWord
          return some ()
        return none
      namespaceBody g

/-- What `import name = …` refers to: a `require` call or a dotted name. -/
def importEqualsRest : Parse (Identifier × Option String) := do
  let id ← name
  expect "="
  let module ← if (← isAt "require") && (← nextIs (isAt "(")) then
    advance
    advance
    match ← lexeme with
    | .string value =>
      advance
      expect ")"
      pure (some value)
    | _ => unexpected
  else
    let _ ← anyWord
    let _ ← many do
      if ← eat "." then
        let _ ← anyWord
        return some ()
      return none
    pure none
  semicolon
  return (id, module)

/-- A declaration after its modifiers. -/
def declarationBody (g : Grammar) (place : StatementPlace) : Parse Declaration := do
  match ← lexeme with
  | .word text false =>
    match text with
    | "namespace" | "module" | "global" =>
      namespaceRest g
      return .typed
    | "type" =>
      typeAlias g
      return .typed
    | "interface" =>
      interfaceRest g
      return .typed
    | "enum" =>
      enumRest g
      return .typed
    | "class" => return .ofClass (← classRest g)
    | "import" =>
      advance
      let _ ← importEqualsRest
      return .typed
    | "const" =>
      if (← isTyped) && (← nextIs (isAt "enum")) then
        advance
        enumRest g
        return .typed
      variableStatement g
    | "var" | "let" => variableStatement g
    | _ =>
      if ← isAtFunction then return .function (← functionDeclaration g place true)
      unexpected
  | _ => unexpected

/-- Words that may stand in front of a declaration of the typed language. -/
def declarationModifiers : List String :=
  ["abstract", "accessor", "declare", "private", "protected", "public", "readonly", "static"]

def typedDeclaration (g : Grammar) (place : StatementPlace) : Parse Declaration := do
  let words ← many do
    match ← lexeme with
    | .word text false =>
      if declarationModifiers.contains text && (← nextOnLineIs isAtWord) then
        advance
        return some text
      return none
    | _ => return none
  let ambient := words.contains "declare"
  noteIf (words.any fun w => w != "declare" && w != "abstract") (.misplaced "modifier")
  noteIf (words.contains "abstract" && !(← isAt "class")) (.misplaced "modifier")
  within (fun s => { s with ambient := s.ambient || ambient }) (declarationBody g place)

end Parse

end Showcase.Script
