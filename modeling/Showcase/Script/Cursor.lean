import Showcase.Script.Lexer

namespace Showcase.Script

/-! # The cursor of the parser

A parser step moves a cursor over the tokens.  It either stops with a diagnostic or
goes on, perhaps having noted a diagnostic on the way; a text is accepted when the
parser comes through without either.  Looking ahead and trying keep nothing of what
they passed over.
-/

/-- Which optional parts of the language a text may use. -/
structure Dialect where
  typed : Bool
  markup : Bool
deriving DecidableEq, Repr, Inhabited

/-- What the surroundings of a construct permit. -/
structure Surroundings where
  allowIn : Bool
  yields : Bool
  awaits : Bool
  returns : Bool
  ambient : Bool
  decorator : Bool
  noConditional : Bool
deriving Inhabited

/-- The state of the parser. -/
structure Cursor where
  token : Token
  next : Lexer.Place
  previousEnd : Nat
  dialect : Dialect
  surroundings : Surroundings
  /-- Diagnostics so far, the last one first. -/
  problems : List Diagnostic
  /-- Where shorthand members with a default stand that no pattern has taken up. -/
  pendingDefaults : List Nat
  /-- Where the literals begin that end in a comma. -/
  trailingCommas : List Nat
  /-- The names exported so far. -/
  exported : List String
deriving Inhabited

abbrev Parse := StateT Cursor (Except Diagnostic)

namespace Parse

def stop (d : Diagnostic) : Parse α := throw d

def note (d : Diagnostic) : Parse Unit :=
  modify fun c => { c with problems := d :: c.problems }

def noteIf (condition : Bool) (d : Diagnostic) : Parse Unit :=
  if condition then note d else pure ()

/-- Runs `p` and puts the cursor back. -/
def lookahead (p : Parse Bool) : Parse Bool := fun c =>
  match p c with
  | .ok (answer, _) => .ok (answer, c)
  | .error _ => .ok (false, c)

/-- Runs `p`, and puts the cursor back if it stops. -/
def attempt (p : Parse α) : Parse (Option α) := fun c =>
  match p c with
  | .ok (a, c') => .ok (some a, c')
  | .error _ => .ok (none, c)

/-- Runs `p`, and puts the cursor back if it has no result or stops. -/
def attemptSome (p : Parse (Option α)) : Parse (Option α) := fun c =>
  match p c with
  | .ok (some a, c') => .ok (some a, c')
  | .ok (none, _) | .error _ => .ok (none, c)

/-- Runs `p` in other surroundings. -/
def within (change : Surroundings → Surroundings) (p : Parse α) : Parse α := do
  let before := (← get).surroundings
  modify fun c => { c with surroundings := change c.surroundings }
  let a ← p
  modify fun c => { c with surroundings := before }
  pure a

def surroundings : Parse Surroundings := return (← get).surroundings

def token : Parse Token := return (← get).token

def lexeme : Parse Lexeme := return (← get).token.lexeme

def isTyped : Parse Bool := return (← get).dialect.typed

def hasMarkup : Parse Bool := return (← get).dialect.markup

/-- The offset at which the current token begins. -/
def offset : Parse Nat := return (← get).token.start

/-- The stretch from `start` to the end of the token before the current one. -/
def spanFrom (start : Nat) : Parse Span := return ⟨start, (← get).previousEnd⟩

/-- Whether a line break stands before the current token. -/
def afterBreak : Parse Bool := return (← get).token.afterBreak

def setToken (lexed : Lexer.Lexed) : Parse Unit :=
  modify fun c => { c with
    token := lexed.token
    next := lexed.next
    problems := match lexed.problem with
      | some d => d :: c.problems
      | none => c.problems }

/-- Moves past the current token; `read` reads the one after it. -/
def advanceWith (read : Lexer.Place → Lexer.Lexed) : Parse Unit := do
  let c ← get
  set { c with previousEnd := c.token.stop }
  setToken (read c.next)

def advance : Parse Unit := advanceWith Lexer.next

/-- Reads the current token again in another way. -/
def reread (read : Token → Lexer.Lexed) : Parse Unit := do
  setToken (read (← token))

/-- Whether the current token is this mark or this keyword. -/
def isAt (text : String) : Parse Bool := do
  match ← lexeme with
  | .mark t => pure (t == text)
  | .word name false => pure (name == text)
  | _ => pure false

def isAtAny (texts : List String) : Parse Bool := do
  match ← lexeme with
  | .mark t => pure (texts.contains t)
  | .word name false => pure (texts.contains name)
  | _ => pure false

def isAtEnd : Parse Bool := return (← lexeme) == .finish

/-- Whether the current token is a word, reserved or not. -/
def isAtWord : Parse Bool := do
  match ← lexeme with
  | .word _ _ => pure true
  | _ => pure false

/-- Whether the current token is a word that may name something. -/
def isAtName : Parse Bool := do
  match ← lexeme with
  | .word name _ => pure (!reservedWords.contains name)
  | _ => pure false

def isAtNumber : Parse Bool := do
  match ← lexeme with
  | .number _ | .bigint => pure true
  | _ => pure false

def isAtString : Parse Bool := do
  match ← lexeme with
  | .string _ => pure true
  | _ => pure false

def isAtTemplate : Parse Bool := do
  match ← lexeme with
  | .templateWhole _ | .templateHead _ => pure true
  | _ => pure false

/-- Whether `p` holds of the token after the current one. -/
def nextIs (p : Parse Bool) : Parse Bool :=
  lookahead do
    advance
    p

/-- Whether the next token is on the same line and `p` holds of it. -/
def nextOnLineIs (p : Parse Bool) : Parse Bool :=
  nextIs do
    if ← afterBreak then pure false else p

/-- Stops at a token that does not fit. -/
def unexpected : Parse α := stop .unexpectedToken

/-- Moves past the mark or keyword `text` if it is there. -/
def eat (text : String) : Parse Bool := do
  if ← isAt text then
    advance
    pure true
  else pure false

/-- Moves past the mark or keyword `text`, which has to be there. -/
def expect (text : String) : Parse Unit := do
  if ← isAt text then advance
  else stop (.expected text (← lexeme).describe)

/-- Whether a statement may end here without a semicolon. -/
def canEndStatement : Parse Bool := do
  if ← isAtAny [";", "\x7d"] then pure true
  else if ← isAtEnd then pure true
  else afterBreak

/-- Ends a statement, with or without a semicolon. -/
def semicolon : Parse Unit := do
  if ← eat ";" then pure ()
  else if ← canEndStatement then pure ()
  else stop .missingSemicolon

/-- Runs `step` as long as it has a result, at most `fuel` times. -/
def repeated (step : Parse (Option α)) : Nat → List α → Parse (List α)
  | 0, _ => stop .tooDeep
  | fuel + 1, acc => do
    match ← step with
    | some a => repeated step fuel (a :: acc)
    | none => pure acc.reverse

/-- A bound on the number of tokens that are left. -/
def tokensLeft : Parse Nat := return (← get).next.rest.length + 2

/-- Runs `step` as long as it has a result. -/
def many (step : Parse (Option α)) : Parse (List α) := do
  repeated step (← tokensLeft) []

/-- Runs `step` on its own results as long as it has one, at most `fuel` times. -/
def iterated (step : α → Parse (Option α)) : Nat → α → Parse α
  | 0, _ => stop .tooDeep
  | fuel + 1, a => do
    match ← step a with
    | some b => iterated step fuel b
    | none => pure a

/-- Runs `step` on its own results as long as it has one. -/
def iterate (step : α → Parse (Option α)) (a : α) : Parse α := do
  iterated step (← tokensLeft) a

/-- Items separated by commas up to `close`, which is not passed, and whether a comma
stands after the last one. -/
def commaList (close : String) (item : Parse α) : Parse (List α × Bool) := do
  if ← isAt close then return ([], false)
  let first ← item
  let step : List α × Bool × Bool → Parse (Option (List α × Bool × Bool)) := fun (acc, trailing, done) => do
    if done then return none
    if ← isAt close then return some (acc, trailing, true)
    if !(← isAt ",") then stop (.expected close (← lexeme).describe)
    advance
    if ← isAt close then return some (acc, true, true)
    let a ← item
    return some (a :: acc, trailing, false)
  let (acc, trailing, _) ← iterate step ([first], false, false)
  return (acc.reverse, trailing)

/-- A word that may name something here: `await` and `yield` may not where they are
operators. -/
def checkName (name : String) : Parse Unit := do
  let s ← surroundings
  noteIf (s.awaits && name == "await") (.misplaced "`await`")
  noteIf (s.yields && name == "yield") (.misplaced "`yield`")

/-- A name that is introduced or referred to. -/
def name : Parse Identifier := do
  match ← lexeme with
  | .word text _ =>
    if reservedWords.contains text then stop (.expected "identifier" text)
    let start ← offset
    checkName text
    advance
    return ⟨text, ← spanFrom start⟩
  | other => stop (.expected "identifier" other.describe)

/-- A word in a place where every word is a name. -/
def anyWord : Parse Identifier := do
  match ← lexeme with
  | .word text _ =>
    let start ← offset
    advance
    return ⟨text, ← spanFrom start⟩
  | _ => unexpected

end Parse

end Showcase.Script
