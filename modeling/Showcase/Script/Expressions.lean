import Showcase.Script.Markup

namespace Showcase.Script

/-! # Expressions -/

namespace Parse

/-- A binary operator binds the tighter the greater its level. -/
def operatorLevel (text : String) : Option Nat :=
  match text with
  | "??" => some 1
  | "||" => some 2
  | "&&" => some 3
  | "|" => some 4
  | "^" => some 5
  | "&" => some 6
  | "==" | "!=" | "===" | "!==" => some 7
  | "<" | ">" | "<=" | ">=" | "instanceof" | "in" | "as" | "satisfies" => some 8
  | "<<" | ">>" | ">>>" => some 9
  | "+" | "-" => some 10
  | "*" | "/" | "%" => some 11
  | "**" => some 12
  | _ => none

/-- The level of exponentiation, the one operator that groups to the right. -/
def powerLevel : Nat := 12

def compareLevel : Nat := 8

def assignmentOperators : List String :=
  ["=", "+=", "-=", "*=", "/=", "%=", "**=", "<<=", ">>=", ">>>=", "&=", "|=", "^=", "&&=",
   "||=", "??="]

def unaryOperators : List String := ["delete", "void", "typeof", "+", "-", "~", "!"]

def operatorAt : Parse (Option (String × Nat)) := do
  if ← isAt ">" then reread Lexer.angleFrom
  match ← lexeme with
  | .mark text | .word text false =>
    match operatorLevel text with
    | none => return none
    | some level =>
      if text == "in" && !(← surroundings).allowIn then return none
      if text == "as" || text == "satisfies" then
        if !(← isTyped) || (← afterBreak) then return none
      return some (text, level)
  | _ => return none

/-- Whether an expression can begin at the cursor. -/
def isAtExpression : Parse Bool := do
  match ← lexeme with
  | .word text _ =>
    if text == "import" then nextIs (isAtAny ["(", "<", "."])
    else
      pure (!reservedWords.contains text ||
        ["this", "super", "null", "true", "false", "function", "class", "new", "delete", "void",
         "typeof"].contains text)
  | .privateName _ | .string _ | .number _ | .bigint | .templateWhole _ | .templateHead _ => pure true
  | .mark text =>
    pure (["(", "[", "\x7b", "/", "/=", "+", "-", "~", "!", "++", "--", "<", "@"].contains text)
  | _ => pure false

/-- Type arguments in an expression.  They count as such only if what follows could not
go on with a comparison. -/
def expressionTypeArguments (g : Grammar) : Parse Unit := do
  splitAngle
  expect "<"
  let (types, _) ← commaList ">" g.type
  noteIf types.isEmpty (.invalid "type argument list")
  if (← isAt ">") && (Lexer.angleFrom (← token)).token.lexeme == .mark ">=" then unexpected
  expect ">"
  if (← isAt "(") || (← isAtTemplate) then return
  if ← isAtAny ["<", ">", "+", "-"] then unexpected
  if ← afterBreak then return
  if (← operatorAt).isSome then return
  if ← isAtExpression then unexpected

/-- The arguments of a call, with their parentheses. -/
def callArguments (g : Grammar) : Parse Nat := do
  expect "("
  let argument : Parse Unit := do
    if ← isAt "..." then
      let _ ← spreadArgument g
    else
      let _ ← g.assignment
  let (items, _) ← within (fun s => { s with allowIn := true, decorator := false })
    (commaList ")" argument)
  expect ")"
  return items.length

/-- What follows the point of a member expression. -/
def memberName (start : Nat) (object : Expr) : Parse Expr := do
  match ← lexeme with
  | .privateName _ =>
    advance
    return .other (← spanFrom start) .privateMember
  | _ =>
    let id ← anyWord
    return .member (← spanFrom start) object id.name

def indexAccess (g : Grammar) (start : Nat) : Parse Expr := do
  expect "["
  let _ ← within (fun s => { s with allowIn := true }) g.expression
  expect "]"
  return .other (← spanFrom start) .index

/-- A template that is the argument of a tag. -/
def taggedTemplate (g : Grammar) (start : Nat) (inChain : Bool) : Parse Expr := do
  let _ ← templateLiteral g
  noteIf inChain (.misplaced "template in an optional chain")
  return .other (← spanFrom start) .taggedTemplate

/-- Member accesses, type arguments and tagged templates after an expression.  The state
is the expression and whether it is in an optional chain. -/
def memberSuffixes (g : Grammar) (start : Nat) (first : Expr × Bool) : Parse (Expr × Bool) := do
  let step : Expr × Bool → Parse (Option (Expr × Bool)) := fun (e, inChain) => do
    if ← isAtTemplate then return some (← taggedTemplate g start inChain, inChain)
    match ← lexeme with
    | .mark "." =>
      advance
      return some (← memberName start e, inChain)
    | .mark "?." =>
      attemptSome do
        advance
        if (← isAt "[") && !(← surroundings).decorator then
          return some (← indexAccess g start, true)
        match ← lexeme with
        | .word _ _ | .privateName _ => return some (← memberName start e, true)
        | _ => return none
    | .mark "[" =>
      if (← surroundings).decorator then return none
      return some (← indexAccess g start, inChain)
    | .mark "!" =>
      if !(← isTyped) || (← afterBreak) then return none
      advance
      return some (.wrapped (← spanFrom start) .nonNull e, inChain)
    | .mark "<" | .mark "<<" =>
      if !(← isTyped) then return none
      match ← attempt (expressionTypeArguments g) with
      | some () => return some (.other (← spanFrom start) .instantiation, inChain)
      | none => return none
    | _ => return none
  iterate step first

/-- Calls and member accesses after an expression. -/
def callSuffixes (g : Grammar) (start : Nat) (first : Expr × Bool) : Parse (Expr × Bool) := do
  let step : Expr × Bool × Bool → Parse (Option (Expr × Bool × Bool)) := fun (e, inChain, done) => do
    if done then return none
    let (e, inChain) ← memberSuffixes g start (e, inChain)
    let optional ← eat "?."
    let inChain := inChain || optional
    let generic ← if optional && (← isTyped) && (← isAtAny ["<", "<<"]) then
      let found ← attempt (expressionTypeArguments g)
      pure found.isSome
    else pure false
    if optional && (← isAtTemplate) then
      return some (← taggedTemplate g start true, inChain, false)
    if generic || (← isAt "(") then
      let _ ← callArguments g
      return some (.other (← spanFrom start) .call, inChain, false)
    if optional then unexpected
    return some (e, inChain, true)
  let (e, inChain, _) ← iterate step (first.1, first.2, false)
  return (e, inChain)

/-- `new` with its callee and arguments, or `new.target`. -/
def newExpression (g : Grammar) : Parse Expr := do
  let start ← offset
  expect "new"
  if ← eat "." then
    expect "target"
    return .other (← spanFrom start) .metaProperty
  let (callee, inChain) ← g.callee
  let optional := inChain || (← isAt "?.")
  if ← isAt "(" then
    let _ ← callArguments g
  match callee with
  | .other _ .importCall => note (.misplaced "dynamic import")
  | _ => pure ()
  noteIf optional (.misplaced "optional chain")
  return .other (← spanFrom start) .newCall

/-- An expression that begins with `import`. -/
def importExpression (g : Grammar) : Parse Expr := do
  let start ← offset
  expect "import"
  if ← eat "." then
    let id ← anyWord
    if id.name == "meta" then return .other (← spanFrom start) .metaProperty
    if !(["source", "defer"].contains id.name) then unexpected
  expect "("
  let argument : Parse Unit := do
    let _ ← g.assignment
  let (items, _) ← within (fun s => { s with allowIn := true, decorator := false })
    (commaList ")" argument)
  noteIf (items.isEmpty || 2 < items.length) (.invalid "arguments")
  expect ")"
  return .other (← spanFrom start) .importCall

def parenthesized (g : Grammar) : Parse Expr := do
  let start ← offset
  expect "("
  let from_ ← offset
  let (items, trailing) ← within (fun s => { s with allowIn := true, decorator := false })
    (commaList ")" g.assignment)
  if trailing then unexpected
  let inner ← match items with
    | [] => unexpected
    | [e] => pure e
    | _ => pure (Expr.other (← spanFrom from_) .sequence)
  expect ")"
  return .wrapped (← spanFrom start) .parentheses inner

/-- An expression without operators, accesses and calls. -/
def primary (g : Grammar) : Parse Expr := do
  let start ← offset
  if ← isAt "@" then
    let _ ← decorators g
    let _ ← classRest g
    return .definition (← spanFrom start) .ofClass
  if ← isAtFunction then return ← functionExpression g
  match ← lexeme with
  | .string value =>
    advance
    return .string (← spanFrom start) value
  | .number value =>
    advance
    return .number (← spanFrom start) value
  | .bigint =>
    advance
    return .other (← spanFrom start) .bigint
  | .templateWhole _ | .templateHead _ =>
    let pieces ← templateLiteral g
    noteIf (pieces.any Option.isNone) (.invalid "escape sequence")
    return .template (← spanFrom start) pieces
  | .mark "[" => arrayLiteral g
  | .mark "\x7b" => objectLiteral g
  | .mark "(" => parenthesized g
  | .mark "/" | .mark "/=" =>
    reread Lexer.regexFrom
    if (← lexeme) != .regex then unexpected
    advance
    return .other (← spanFrom start) .regex
  | .word text false =>
    match text with
    | "this" =>
      advance
      return .other (← spanFrom start) .this
    | "null" =>
      advance
      return .null (← spanFrom start)
    | "true" | "false" =>
      advance
      return .boolean (← spanFrom start) (text == "true")
    | "class" =>
      let _ ← classRest g
      return .definition (← spanFrom start) .ofClass
    | "new" => newExpression g
    | "super" =>
      advance
      noteIf (!(← isAtAny [".", "[", "("])) (.misplaced "`super`")
      return .other (← spanFrom start) .super
    | "import" => importExpression g
    | _ => return .identifier (← name)
  | .word _ true => return .identifier (← name)
  | _ => unexpected

/-- The callee of `new`: an expression with accesses and without calls. -/
def calleeBody (g : Grammar) : Parse (Expr × Bool) := do
  let start ← offset
  let e ← primary g
  memberSuffixes g start (e, false)

/-- An expression with accesses and calls. -/
def leftHandSideBody (g : Grammar) : Parse Expr := do
  let start ← offset
  let e ← primary g
  let (e, inChain) ← callSuffixes g start (← memberSuffixes g start (e, false))
  if inChain then
    match e with
    | .member .. | .wrapped .. | .other _ .index | .other _ .privateMember | .other _ .call =>
      return .other e.span .optionalChain
    | e => return e
  return e

/-- An expression under prefix operators. -/
def unaryBody (g : Grammar) : Parse Expr := do
  let start ← offset
  if ← isAtAny unaryOperators then
    let minus ← isAt "-"
    advance
    let operand ← g.unary
    let span ← spanFrom start
    return if minus then .negation span operand else .other span .unary
  if ← isAtAny ["++", "--"] then
    advance
    let operand ← g.unary
    let _ ← simpleTarget operand
    return .other (← spanFrom start) .update
  if ← isAt "<" then
    if ← hasMarkup then
      g.markupElement false
      return .other (← spanFrom start) .markup
    if ← isTyped then
      advance
      g.type
      expect ">"
      let operand ← g.unary
      return .wrapped (← spanFrom start) .typeAssertion operand
    unexpected
  if ← isAt "await" then
    let awaits := (← surroundings).awaits
    if awaits || (← nextOnLineIs (do return (← isAtName) || (← isAtString) || (← isAtNumber))) then
      noteIf (!awaits) (.misplaced "`await`")
      advance
      let _ ← within (fun s => { s with awaits := true }) g.unary
      return .other (← spanFrom start) .await
  let e ← leftHandSideBody g
  if (← isAtAny ["++", "--"]) && !(← afterBreak) then
    advance
    let _ ← simpleTarget e
    return .other (← spanFrom start) .update
  return e

/-- Whether an operand is a prefix expression, which may not be the base of a power. -/
def isPrefixed : Expr → Bool
  | .negation _ _ | .other _ .unary | .other _ .await => true
  | _ => false

/-- Whether an operand is a disjunction or conjunction outside parentheses. -/
def isDisjunction : Expr → Bool
  | .other _ .logicalOr | .other _ .logicalAnd => true
  | _ => false

def isCoalescing : Expr → Bool
  | .other _ .coalesce => true
  | _ => false

/-- Binary operators after an operand, as long as they bind tighter than `floor`. -/
def binarySuffixes (g : Grammar) (start floor : Nat) (first : Expr) : Parse Expr := do
  let step : Expr → Parse (Option Expr) := fun left => do
    match ← operatorAt with
    | none => return none
    | some (text, level) =>
      if level < floor || (level == floor && level != powerLevel) then return none
      advance
      if text == "as" || text == "satisfies" then
        g.type
        let wrapper := if text == "as" then Wrapper.asType else .satisfiesType
        return some (.wrapped (← spanFrom start) wrapper left)
      let right ← g.binary level
      let span ← spanFrom start
      match text with
      | "??" =>
        noteIf (isDisjunction left || isDisjunction right) (.misplaced "`??`")
        return some (.other span .coalesce)
      | "||" =>
        noteIf (isCoalescing left || isCoalescing right) (.misplaced "`||`")
        return some (.other span .logicalOr)
      | "&&" =>
        noteIf (isCoalescing left || isCoalescing right) (.misplaced "`&&`")
        return some (.other span .logicalAnd)
      | "**" =>
        noteIf (isPrefixed left) (.misplaced "`**`")
        return some (.other span .binary)
      | _ => return some (.other span .binary)
  iterate step first

/-- An expression of binary operators that bind tighter than `floor`. -/
def binaryBody (g : Grammar) (floor : Nat) : Parse Expr := do
  let start ← offset
  let first ← match ← lexeme with
    | .privateName _ =>
      if (← surroundings).allowIn then
        advance
        expect "in"
        match ← g.binary compareLevel with
        | .other _ .privateIn => stop (.misplaced "private name")
        | _ => pure ()
        return ← binarySuffixes g start floor (.other (← spanFrom start) .privateIn)
      else unexpected
    | _ => unaryBody g
  binarySuffixes g start floor first

/-- How likely an arrow function begins at the cursor. -/
inductive Likelihood where
  | yes
  | no
  | maybe
deriving DecidableEq

/-- Runs `p` and puts the cursor back. -/
def peek (otherwise : α) (p : Parse α) : Parse α := fun c =>
  match p c with
  | .ok (a, _) => .ok (a, c)
  | .error _ => .ok (otherwise, c)

/-- Whether an arrow function begins at the opening parenthesis. -/
def arrowAtParenthesis : Parse Likelihood := do
  advance
  if ← eat ")" then
    return if ← isAtAny [":", "=>", "\x7b"] then .yes else .no
  if ← isAtAny ["[", "\x7b"] then return .maybe
  if ← eat "..." then
    match ← lexeme with
    | .word text false =>
      if ["null", "true", "false"].contains text then return .no
      return if reservedWords.contains text then .maybe else .yes
    | .word _ true => return .yes
    | .string _ | .number _ | .bigint => return .no
    | _ => return .maybe
  match ← lexeme with
  | .word text _ =>
    if modifierWords.contains text && text != "async" then
      let second ← peek none do
        advance
        match ← lexeme with
        | .word t _ => return some t
        | _ => return none
      match second with
      | some t => if !reservedWords.contains t || t == "this" then
          return if t == "as" then .no else .yes
      | none => pure ()
    if reservedWords.contains text && text != "this" then return .no
    advance
    if ← isAt ":" then return .yes
    if ← eat "?" then
      return if ← isAtAny [":", ",", "=", ")"] then .yes else .no
    return if ← isAtAny [",", "=", ")"] then .maybe else .no
  | _ => return .no

/-- Whether an arrow function begins at the opening angle bracket. -/
def arrowAtAngle : Parse Likelihood := do
  let markup ← hasMarkup
  advance
  if !(← isAtName) && !(← isAt "const") then return .no
  if markup then
    let _ ← eat "const"
    advance
    if ← eat "extends" then
      return if ← isAtAny ["=", ">", "/"] then .no else .yes
    return if ← isAtAny [",", "="] then .yes else .no
  return .maybe

/-- How likely an arrow function with a parameter list begins at the cursor. -/
def arrowLikelihood : Parse Likelihood :=
  peek .no do
    if ← eat "async" then
      if ← afterBreak then return .no
    if ← isAt "(" then arrowAtParenthesis
    else if ← isAt "<" then arrowAtAngle
    else return .no

def arrowBody (g : Grammar) (isAsync returnType : Bool) : Parse Unit :=
  within (fun s => { s with awaits := isAsync, yields := false }) do
    if ← isAt "\x7b" then functionBody g
    else
      let _ ← g.assignmentWith returnType

/-- The arrow itself, which has to stand on the line of the parameters. -/
def arrowMark : Parse Unit := do
  noteIf (← afterBreak) (.misplaced "line break")
  expect "=>"

/-- An arrow function with a parameter list, up to its arrow.  The answer tells whether
it has a return type and whether it is asynchronous. -/
def arrowHead (g : Grammar) : Parse (Bool × Bool) := do
  let isAsync ← eat "async"
  within (fun s => { s with awaits := s.awaits || isAsync }) do
    let _ ← typeParameters g
    let params ← parameters g
    noteIf params.hasReceiver (.misplaced "`this`")
  let typed ← returnType g
  arrowMark
  return (typed, isAsync)

def arrowFunction (g : Grammar) (allowed : Bool) : Parse (Option Expr) := do
  let start ← offset
  let (typed, isAsync) ← arrowHead g
  arrowBody g isAsync allowed
  if !allowed && typed && !(← isAt ":") then return none
  return some (.definition (← spanFrom start) .arrow)

/-- An arrow function whose parameter was read as the expression `parameter`. -/
def simpleArrow (g : Grammar) (start : Nat) (parameter : Expr) (isAsync allowed : Bool) :
    Parse Expr := do
  match parameter with
  | .identifier _ => pure ()
  | _ => unexpected
  arrowMark
  arrowBody g isAsync allowed
  return .definition (← spanFrom start) .arrow

/-- Whether `async` begins an arrow function with a bare parameter. -/
def isAtAsyncArrow : Parse Bool := do
  if !(← isAt "async") then return false
  lookahead do
    advance
    if (← afterBreak) || (← isAt "=>") then return false
    if !(← isAtName) then return false
    advance
    return !(← afterBreak) && (← isAt "=>")

/-- A `yield` expression. -/
def yieldExpression (g : Grammar) : Parse Expr := do
  let start ← offset
  noteIf (!(← surroundings).yields) (.misplaced "`yield`")
  expect "yield"
  if !(← afterBreak) then
    let delegate ← eat "*"
    let bare ← if ← isAtAny [";", "\x7d", ")", "]", ":", ",", "in"] then pure true else isAtEnd
    if delegate || !bare then
      let _ ← within (fun s => { s with yields := true }) g.assignment
  return .other (← spanFrom start) .yield

def isAtYield : Parse Bool := do
  if !(← isAt "yield") then return false
  if (← surroundings).yields then return true
  nextOnLineIs (do return (← isAtName) || (← isAtString) || (← isAtNumber))

/-- An assignment expression.  Unless `allowed`, an arrow function in it may have a
return type only before a colon. -/
def assignmentBody (g : Grammar) (allowed : Bool) : Parse Expr := do
  if ← isAtYield then return ← yieldExpression g
  match ← arrowLikelihood with
  | .yes =>
    match ← arrowFunction g true with
    | some e => return e
    | none => unexpected
  | .maybe =>
    match ← attemptSome (arrowFunction g allowed) with
    | some e => return e
    | none => pure ()
  | .no => pure ()
  let start ← offset
  if ← isAtAsyncArrow then
    advance
    let parameter ← within (fun s => { s with awaits := true }) (binaryBody g 0)
    return ← simpleArrow g start parameter true allowed
  let left ← binaryBody g 0
  if (match left with | .identifier _ => true | _ => false) && (← isAt "=>") then
    return ← simpleArrow g start left false allowed
  if ← isAtAny assignmentOperators then
    let plain ← isAt "="
    let target ← if plain then assignmentTarget left else simpleTarget left
    advance
    let value ← g.assignmentWith allowed
    return .assignment (← spanFrom start) plain target value
  if ← eat "?" then
    let _ ← within (fun s => { s with allowIn := true }) (g.assignmentWith false)
    expect ":"
    let _ ← g.assignmentWith allowed
    return .other (← spanFrom start) .conditional
  return left

/-- An expression, perhaps of several parts separated by commas. -/
def expressionBody (g : Grammar) : Parse Expr := do
  let start ← offset
  within (fun s => { s with decorator := false }) do
    let first ← g.assignment
    if !(← isAt ",") then return first
    let _ ← many do
      if ← eat "," then
        let _ ← g.assignment
        return some ()
      return none
    return .other (← spanFrom start) .sequence

end Parse

end Showcase.Script
