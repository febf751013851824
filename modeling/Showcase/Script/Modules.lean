import Showcase.Script.Declarations

namespace Showcase.Script

/-! # Imports and exports -/

namespace Parse

def moduleName : Parse String := do
  match ← lexeme with
  | .string value =>
    advance
    return value
  | other => stop (.expected "string" other.describe)

/-- Import attributes, if there are any. -/
def importAttributes : Parse Unit := do
  if (← isAt "with") || ((← isAt "assert") && !(← afterBreak)) then
    advance
    expect "\x7b"
    let entry : Parse Unit := do
      if ← isAtString then advance else
        let _ ← anyWord
      expect ":"
      let _ ← moduleName
    let _ ← commaList "\x7d" entry
    expect "\x7d"

/-- A name in an import or export list: a word or a string. -/
inductive ListedName where
  | word (id : Identifier)
  | string (value : String)

def ListedName.text : ListedName → String
  | word id => id.name
  | string value => value

def listedName : Parse ListedName := do
  match ← lexeme with
  | .string value =>
    advance
    return .string value
  | _ => return .word (← anyWord)

/-- Whether a listed name begins at the cursor. -/
def isAtListed : Parse Bool := do
  return (← isAtWord) || (← isAtString)

/-- An entry of an import or export list. -/
structure ListedEntry where
  name : ListedName
  /-- The name that it gets, its own one unless another stands after `as`. -/
  given : ListedName
  /-- Whether `type` stands in front of it. -/
  typeOnly : Bool

/-- Reads an entry of an import or export list.  A leading `type` is a modifier only if
a name follows that is not its new one. -/
def listedEntry : Parse ListedEntry := do
  let first ← listedName
  let renamed (n : ListedName) (typeOnly : Bool) : Parse ListedEntry := do
    if ← eat "as" then return ⟨n, ← listedName, typeOnly⟩
    return ⟨n, n, typeOnly⟩
  if first.text == "type" && (← isTyped) then
    if ← isAt "as" then
      let as1 ← listedName
      if ← isAt "as" then
        let as2 ← listedName
        if ← isAtListed then return ⟨as1, ← listedName, true⟩
        return ⟨first, as2, false⟩
      if ← isAtListed then return ⟨first, ← listedName, false⟩
      return ⟨as1, as1, true⟩
    if ← isAtListed then renamed (← listedName) true
    else return ⟨first, first, false⟩
  else renamed first false

/-- An entry of a list that is under `type` as a whole if `typed`; then it has no `type` of
its own. -/
def listedEntryUnder (typed : Bool) : Parse ListedEntry := do
  let entry ← listedEntry
  noteIf (typed && entry.typeOnly) (.misplaced "`type`")
  return entry

/-- The local name of an import specifier. -/
def importSpecifier (typed : Bool) : Parse Identifier := do
  match (← listedEntryUnder typed).given with
  | .word id =>
    if reservedWords.contains id.name then stop (.expected "identifier" id.name)
    checkName id.name
    return id
  | .string value => stop (.expected "identifier" value)

/-- Import specifiers between braces, or a namespace import. -/
def importedNames (typed : Bool) : Parse (List Identifier) := do
  if ← eat "*" then
    expect "as"
    return [← name]
  expect "\x7b"
  let (ids, _) ← commaList "\x7d" (importSpecifier typed)
  expect "\x7d"
  return ids

def importStatement : Parse Statement := do
  expect "import"
  if ← isAtString then
    let module ← moduleName
    importAttributes
    semicolon
    return .importing [] module
  let typed ← isTyped
  if typed && (← isAtName) && (← nextIs (isAt "=")) then
    let (id, module) ← importEqualsRest
    return .importEquals id module
  let mut typeOnly := false
  if typed && (← isAt "type") then
    typeOnly ← lookahead do
      advance
      if ← isAtAny ["\x7b", "*"] then return true
      if ← isAt "from" then
        advance
        return (← isAt "from") || (← isAt "=")
      isAtName
    if typeOnly then
      advance
      if (← isAtName) && (← nextIs (isAt "=")) then
        let (id, module) ← importEqualsRest
        return .importEquals id module
  if ← isAtAny ["defer", "source"] then
    let qualifies ← lookahead do
      let deferred ← isAt "defer"
      advance
      if deferred then isAt "*"
      else
        if !(← isAtName) then return false
        advance
        isAt "from"
    if qualifies then advance
  let names ← if ← isAtAny ["*", "\x7b"] then importedNames typeOnly
  else
    let default_ ← name
    if ← eat "," then
      let more ← importedNames typeOnly
      pure (default_ :: more)
    else pure [default_]
  expect "from"
  let module ← moduleName
  importAttributes
  semicolon
  return .importing names module

/-- Notes that `text` is exported.  Outside typed texts, a name is exported only once. -/
def exporting (text : String) : Parse Unit := do
  let c ← get
  noteIf (!c.dialect.typed && c.exported.contains text) (.invalid "duplicate export")
  set { ← get with exported := text :: c.exported }

/-- The names that a declaration exports. -/
def exportingDeclaration (d : Declaration) : Parse Unit := do
  match d with
  | .declarators ds =>
    for d in ds do exporting d.name.name
  | .function (some id) | .ofClass (some id) => exporting id.name
  | _ => pure ()

/-- `export default`, after the two words. -/
def exportDefault (g : Grammar) : Parse Statement := do
  exporting "default"
  let typed ← isTyped
  if ← isAt "@" then
    let _ ← decorators g
    if typed then
      let _ ← eat "abstract"
    let _ ← classRest g
    return .other
  if ← isAt "class" then
    let _ ← classRest g
    return .other
  if typed && (← isAt "abstract") && (← nextOnLineIs (isAt "class")) then
    advance
    let _ ← classRest g
    return .other
  if typed && (← isAt "interface") && (← nextOnLineIs isAtName) then
    interfaceRest g
    return .other
  if ← isAtFunction then
    let _ ← functionDeclaration g .list false
    return .other
  let value ← g.assignment
  semicolon
  return .exportDefault value

/-- An export list, and where it comes from. -/
def exportList (typed : Bool) : Parse Unit := do
  expect "\x7b"
  let (entries, _) ← commaList "\x7d" (listedEntryUnder typed)
  expect "\x7d"
  if ← eat "from" then
    let _ ← moduleName
    importAttributes
  else
    for entry in entries do
      match entry.name with
      | .string _ => note (.misplaced "string")
      | .word id => noteIf (reservedWords.contains id.name) (.expected "identifier" id.name)
  for entry in entries do exporting entry.given.text
  semicolon

/-- `export *`, from the star on. -/
def exportAll : Parse Unit := do
  expect "*"
  if ← eat "as" then
    let n ← listedName
    exporting n.text
  expect "from"
  let _ ← moduleName
  importAttributes
  semicolon

def exportStatement (g : Grammar) : Parse Statement := do
  expect "export"
  let typed ← isTyped
  if typed && (← isAt "=") then
    advance
    let value ← g.expression
    semicolon
    return .exportAssignment value
  if typed && (← isAt "as") && (← nextIs (isAt "namespace")) then
    advance
    advance
    let _ ← name
    semicolon
    return .other
  if ← eat "default" then return ← exportDefault g
  if ← isAt "*" then
    exportAll
    return .other
  if ← isAt "\x7b" then
    exportList false
    return .other
  if typed && (← isAt "type") && (← nextIs (isAtAny ["\x7b", "*"])) then
    advance
    if ← isAt "*" then exportAll else exportList true
    return .other
  if ← isAt "@" then
    let _ ← decorators g
    if typed then
      let _ ← eat "abstract"
    let id ← classRest g
    exportingDeclaration (.ofClass id)
    return .exportDeclaration (.ofClass id)
  let d ← if typed then typedDeclaration g .list
  else if ← isAtAny ["var", "let", "const", "class", "function", "async"] then
    declarationBody g .list
  else unexpected
  exportingDeclaration d
  return .exportDeclaration d

end Parse

end Showcase.Script
