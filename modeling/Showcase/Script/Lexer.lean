import Showcase.Script.Escape
import Showcase.Script.Diagnostic

namespace Showcase.Script.Lexer

open Text

/-! # The lexer

One token is read at a time from the list of characters that is left, since what a
slash, a brace or an angle bracket begins depends on the grammar around it.  The
scanners below take the characters from a place on together with its byte offset
and return where they stop.
-/

/-- What is left of the source, from a byte offset on. -/
structure Place where
  rest : List Char
  offset : Nat
deriving Inhabited

/-- The place after the characters `cs` when `rest` is what follows them. -/
def advanceTo (place : Place) (rest : List Char) : Place :=
  let consumed := place.rest.length - rest.length
  { rest, offset := place.offset + byteLength (place.rest.take consumed) }

/-- Blanks and comments before a token. -/
structure Gap where
  place : Place
  hasBreak : Bool
  /-- Whether a block comment has no end. -/
  isOpen : Bool

mutual

def skipGap : List Char → Nat → Bool → Gap
  | [], o, nl => ⟨⟨[], o⟩, nl, false⟩
  | '/' :: '/' :: cs, o, nl => skipLine cs (o + 2) nl
  | '/' :: '*' :: cs, o, nl => skipBlock cs (o + 2) nl
  | c :: cs, o, nl =>
    if isLineBreak c then skipGap cs (o + c.utf8Size) true
    else if isSpace c then skipGap cs (o + c.utf8Size) nl
    else ⟨⟨c :: cs, o⟩, nl, false⟩

/-- Skips the rest of a line comment. -/
def skipLine : List Char → Nat → Bool → Gap
  | [], o, nl => ⟨⟨[], o⟩, nl, false⟩
  | c :: cs, o, nl =>
    if isLineBreak c then skipGap cs (o + c.utf8Size) true
    else skipLine cs (o + c.utf8Size) nl

/-- Skips the rest of a block comment. -/
def skipBlock : List Char → Nat → Bool → Gap
  | [], o, nl => ⟨⟨[], o⟩, nl, true⟩
  | '*' :: '/' :: cs, o, nl => skipGap cs (o + 2) nl
  | c :: cs, o, nl => skipBlock cs (o + c.utf8Size) (nl || isLineBreak c)

end

/-- The marks of the language, longer ones before their beginnings.  A closing angle
bracket is always read alone. -/
def marks : List (List Char) :=
  ["...", "<<=", "===", "!==", "**=", "&&=", "||=", "??=",
   "<<", "<=", "==", "=>", "!=", "++", "+=", "--", "-=", "*=", "**", "/=", "%=", "&&", "&=",
   "||", "|=", "^=", "??", "?.",
   "\x7b", "\x7d", "(", ")", "[", "]", ".", ";", ",", "<", ">", "=", "!", "+", "-", "*", "/", "%",
   "&", "|", "^", "~", "?", ":", "@"].map String.toList

/-- The marks that begin with a closing angle bracket. -/
def angleMarks : List (List Char) :=
  [">>>=", ">>>", ">>=", ">>", ">="].map String.toList

/-- The longest mark at the front. -/
def markAt (cs : List Char) : Option (List Char) :=
  match cs with
  | '?' :: '.' :: c :: _ => if c.isDigit then some ['?'] else marks.find? (·.isPrefixOf cs)
  | _ => marks.find? (·.isPrefixOf cs)

/-- The rest of a name.  The result is the name in reverse, whether it has an escape,
and what follows; `none` for a malformed escape. -/
def nameTail : Nat → List Char → List Char → Bool → Option (List Char × Bool × List Char)
  | 0, cs, acc, escaped => some (acc, escaped, cs)
  | _ + 1, [], acc, escaped => some (acc, escaped, [])
  | fuel + 1, '\\' :: cs, acc, _ =>
    match cs with
    | 'u' :: cs =>
      match unicodeEscape cs with
      | some (code, rest) =>
        let c := Char.ofNat code
        if (if acc.isEmpty then startsName c else continuesName c) then
          nameTail fuel rest (c :: acc) true
        else none
      | none => none
    | _ => none
  | fuel + 1, c :: cs, acc, escaped =>
    if (if acc.isEmpty then startsName c else continuesName c) then
      nameTail fuel cs (c :: acc) escaped
    else some (acc, escaped, c :: cs)

/-- A name at the front of `cs`. -/
def nameAt (cs : List Char) : Option (String × Bool × List Char) :=
  match nameTail cs.length cs [] false with
  | some (acc, escaped, rest) =>
    if acc.isEmpty then none else some (String.ofList acc.reverse, escaped, rest)
  | none => none

/-- The value of a digit in a base up to sixteen. -/
def digitIn (base : Nat) (c : Char) : Option Nat :=
  match hexDigit? c with
  | some d => if d < base then some d else none
  | none => none

/-- Digits with single underscores between them. -/
structure Digits where
  value : Nat
  count : Nat
  /-- Whether every underscore stands between two digits. -/
  clean : Bool
  rest : List Char

/-- Reads digits; `after` tells whether a digit stands just before. -/
def digits (base : Nat) : List Char → Nat → Nat → Bool → Digits
  | [], value, count, after => ⟨value, count, after || count == 0, []⟩
  | c :: cs, value, count, after =>
    match digitIn base c with
    | some d => digits base cs (value * base + d) (count + 1) true
    | none =>
      if c = '_' ∧ after then digits base cs value count false
      else ⟨value, count, after || count == 0, c :: cs⟩

/-- Whether a number may end before `cs`. -/
def numberEnds (cs : List Char) : Bool :=
  match cs with
  | [] => true
  | c :: _ => !(startsName c || c.isDigit || c = '\\')

/-- A number in base `base` after its two-letter mark. -/
def radixNumber (base : Nat) (cs : List Char) : Lexeme × List Char :=
  let ds := digits base cs 0 0 false
  if ds.count = 0 || !ds.clean then (.malformed, ds.rest)
  else match ds.rest with
    | 'n' :: rest => if numberEnds rest then (.bigint, rest) else (.malformed, rest)
    | rest => if numberEnds rest then (.number (.ofNat ds.value), rest) else (.malformed, rest)

/-- An exponent: its value and what follows it; `none` if it has no digits. -/
def exponentAt (cs : List Char) : Option (Int × List Char) :=
  match cs with
  | c :: rest =>
    if c = 'e' ∨ c = 'E' then
      let (negative, rest) := match rest with
        | '-' :: r => (true, r)
        | '+' :: r => (false, r)
        | r => (false, r)
      let ds := digits 10 rest 0 0 false
      if ds.count = 0 || !ds.clean then none
      else some (if negative then -(ds.value : Int) else ds.value, ds.rest)
    else some (0, cs)
  | [] => some (0, [])

def finishDecimal (whole : Nat) (cs : List Char) : Lexeme × List Char :=
  let fraction : Digits := match cs with
    | '.' :: rest =>
      let ds := digits 10 rest whole 0 false
      ds
    | _ => ⟨whole, 0, true, cs⟩
  if !fraction.clean then (.malformed, fraction.rest)
  else match exponentAt fraction.rest with
    | none => (.malformed, fraction.rest)
    | some (e, rest) =>
      if numberEnds rest then
        (.number (.ofDecimal false fraction.value (e - fraction.count)), rest)
      else (.malformed, rest)

/-- The value of decimal digits read as octal ones, if they all are. -/
def octalDigits (cs : List Char) : Option Nat :=
  cs.foldl (fun acc c => acc.bind fun v => if isOctal c then some (v * 8 + octalValue c) else none)
    (some 0)

/-- A number at the front of `cs`, which begins with a digit or with a point and a digit. -/
def numberAt (cs : List Char) : Lexeme × List Char :=
  match cs with
  | '0' :: 'x' :: rest | '0' :: 'X' :: rest => radixNumber 16 rest
  | '0' :: 'o' :: rest | '0' :: 'O' :: rest => radixNumber 8 rest
  | '0' :: 'b' :: rest | '0' :: 'B' :: rest => radixNumber 2 rest
  | '0' :: 'n' :: rest => if numberEnds rest then (.bigint, rest) else (.malformed, rest)
  | '0' :: d :: rest =>
    if d.isDigit then
      let run := (d :: rest).takeWhile Char.isDigit
      let after := (d :: rest).dropWhile Char.isDigit
      match octalDigits run with
      | some v => if numberEnds after then (.number (.ofNat v), after) else (.malformed, after)
      | none => finishDecimal (run.foldl (fun v c => v * 10 + (c.toNat - '0'.toNat)) 0) after
    else finishDecimal 0 (d :: rest)
  | '.' :: _ => finishDecimal 0 cs
  | _ =>
    let ds := digits 10 cs 0 0 false
    if !ds.clean then (.malformed, ds.rest)
    else match ds.rest with
      | 'n' :: rest => if numberEnds rest then (.bigint, rest) else (.malformed, rest)
      | rest => finishDecimal ds.value rest

/-- How a quoted stretch ended. -/
inductive Ending where
  | closed
  | substitution
  | bad
  | cut
deriving DecidableEq

/-- The body of a string up to its closing quote: its units in reverse, how it ended
and what follows. -/
def stringBody (quote : Char) : Nat → List Char → List Unit16 → List Unit16 × Ending × List Char
  | 0, cs, acc => (acc, .cut, cs)
  | _ + 1, [], acc => (acc, .cut, [])
  | fuel + 1, c :: cs, acc =>
    if c = quote then (acc, .closed, cs)
    else if c = '\n' ∨ c = '\r' then (acc, .cut, c :: cs)
    else if c = '\\' then
      match escape true cs with
      | some (units, rest) => stringBody quote fuel rest (units.reverse ++ acc)
      | none => (acc, .bad, cs)
    else stringBody quote fuel cs (.char c :: acc)

/-- A piece of a template up to its end or to a substitution.  The units are `none`
once an escape is malformed; the piece goes on all the same. -/
def templateBody : Nat → List Char → Option (List Unit16) → Option (List Unit16) × Ending × List Char
  | 0, cs, acc => (acc, .cut, cs)
  | _ + 1, [], acc => (acc, .cut, [])
  | _ + 1, '\x60' :: cs, acc => (acc, .closed, cs)
  | _ + 1, '$' :: '{' :: cs, acc => (acc, .substitution, cs)
  | fuel + 1, '\r' :: '\n' :: cs, acc => templateBody fuel cs (acc.map (.char '\n' :: ·))
  | fuel + 1, '\r' :: cs, acc => templateBody fuel cs (acc.map (.char '\n' :: ·))
  | fuel + 1, '\\' :: cs, acc =>
    match escape false cs with
    | some (units, rest) => templateBody fuel rest (acc.map (units.reverse ++ ·))
    | none =>
      match cs with
      | [] => (none, .cut, [])
      | _ :: rest => templateBody fuel rest none
  | fuel + 1, c :: cs, acc => templateBody fuel cs (acc.map (.char c :: ·))

/-- The body of a regular expression up to its closing slash. -/
def regexBody : List Char → Bool → Option (List Char)
  | [], _ => none
  | '\\' :: c :: cs, inClass => if isLineBreak c then none else regexBody cs inClass
  | c :: cs, inClass =>
    if isLineBreak c then none
    else if c = '/' ∧ inClass = false then some cs
    else if c = '[' then regexBody cs true
    else if c = ']' then regexBody cs false
    else regexBody cs inClass

/-- A token that was read, where the source goes on, and what was wrong. -/
structure Lexed where
  token : Token
  next : Place
  problem : Option Diagnostic

/-- Makes a token of the characters from `place` up to `rest`. -/
def finish (place : Place) (afterBreak : Bool) (lexeme : Lexeme) (rest : List Char)
    (problem : Option Diagnostic) : Lexed :=
  let next := advanceTo place rest
  { token := ⟨lexeme, place.offset, next.offset, afterBreak, place.rest⟩, next, problem }

def templateToken (place : Place) (afterBreak : Bool) (body : List Char)
    (whole open_ : Option String → Lexeme) : Lexed :=
  let (units, ending, rest) := templateBody body.length body (some [])
  let cooked := units.map fun us => Unit16.text us.reverse
  match ending with
  | .closed => finish place afterBreak (whole cooked) rest none
  | .substitution => finish place afterBreak (open_ cooked) rest none
  | _ => finish place afterBreak .malformed rest (some (.unterminated "string"))

/-- The token at a place where no blank or comment stands. -/
def tokenAt (place : Place) (afterBreak : Bool) : Lexed :=
  let done := finish place afterBreak
  match place.rest with
  | [] => done .finish [] none
  | c :: cs =>
    if c = '"' ∨ c = '\'' then
      let (units, ending, rest) := stringBody c cs.length.succ cs []
      match ending with
      | .closed => done (.string (Unit16.text units.reverse)) rest none
      | .bad => done .malformed rest (some (.invalid "escape sequence"))
      | _ => done .malformed rest (some (.unterminated "string"))
    else if c = '\x60' then
      templateToken place afterBreak cs .templateWhole .templateHead
    else if c.isDigit || (c = '.' && (cs.head?.any Char.isDigit)) then
      let (lexeme, rest) := numberAt (c :: cs)
      done lexeme rest (if lexeme = .malformed then some (.invalid "number") else none)
    else if c = '#' then
      match nameAt cs with
      | some (name, _, rest) => done (.privateName name) rest none
      | none => done .malformed cs (some (.invalid "character"))
    else if startsName c || c = '\\' then
      match nameAt (c :: cs) with
      | some (name, escaped, rest) => done (.word name escaped) rest none
      | none => done .malformed cs (some (.invalid "escape sequence"))
    else
      match markAt (c :: cs) with
      | some mark => done (.mark (String.ofList mark)) ((c :: cs).drop mark.length) none
      | none => done .malformed cs (some (.invalid "character"))

def next (place : Place) : Lexed :=
  let gap := skipGap place.rest place.offset false
  if gap.isOpen then
    finish gap.place gap.hasBreak .finish [] (some (.unterminated "multiline comment"))
  else tokenAt gap.place gap.hasBreak

/-- Reads the token `t` again as a regular expression. -/
def regexFrom (t : Token) : Lexed :=
  let place : Place := ⟨t.text, t.start⟩
  match regexBody (t.text.drop 1) false with
  | none =>
    finish place t.afterBreak .malformed (t.text.dropWhile (!isLineBreak ·))
      (some (.unterminated "regular expression"))
  | some rest =>
    let flags := rest.takeWhile fun c => c.isAlphanum || c = '$' || c = '_'
    let after := rest.dropWhile fun c => c.isAlphanum || c = '$' || c = '_'
    let good := flags.all ("dgimsuvy".toList.contains ·) && flags.eraseDups.length == flags.length
    finish place t.afterBreak .regex after
      (if good then none else some (.invalid "regular expression flag"))

/-- Reads on in a template at the closing brace `t` of a substitution. -/
def templateFrom (t : Token) : Lexed :=
  templateToken ⟨t.text, t.start⟩ t.afterBreak (t.text.drop 1) .templateTail .templateMiddle

/-- Reads the token `t`, a closing angle bracket, again as the longest mark. -/
def angleFrom (t : Token) : Lexed :=
  match angleMarks.find? (·.isPrefixOf t.text) with
  | some mark =>
    finish ⟨t.text, t.start⟩ t.afterBreak (.mark (String.ofList mark)) (t.text.drop mark.length) none
  | none => finish ⟨t.text, t.start⟩ t.afterBreak (.mark ">") (t.text.drop 1) none

/-- Reads only the first character of the mark `t`. -/
def firstOf (t : Token) : Lexed :=
  finish ⟨t.text, t.start⟩ t.afterBreak (.mark (String.ofList (t.text.take 1))) (t.text.drop 1) none

/-- The next token between markup tags: a brace, an angle bracket, or text up to one.  No
closing brace and no closing angle bracket may stand in the text. -/
def markupChild (place : Place) : Lexed :=
  match place.rest with
  | [] => finish place false .finish [] none
  | c :: cs =>
    if c = '<' then finish place false (.mark "<") cs none
    else if c = '\x7b' then finish place false (.mark "\x7b") cs none
    else
      let isText := fun d : Char => d ≠ '<' && d ≠ '\x7b'
      let closes := ((c :: cs).takeWhile isText).any fun d => d = '>' || d = '\x7d'
      finish place false .markupText ((c :: cs).dropWhile isText)
        (if closes then some (.misplaced "closing mark") else none)

/-- Reads the word `t` again as a markup name, in which hyphens may stand. -/
def markupNameFrom (t : Token) : Lexed :=
  match t.lexeme with
  | .word name _ =>
    let consumed := t.stop - t.start
    let after := dropBytes consumed t.text
    let more := after.takeWhile fun c => continuesName c || c = '-'
    finish ⟨t.text, t.start⟩ t.afterBreak (.word (name ++ String.ofList more) false)
      (after.drop more.length) none
  | _ => finish ⟨t.text, t.start⟩ t.afterBreak t.lexeme (dropBytes (t.stop - t.start) t.text) none

/-- The next token where a markup attribute value stands: a string without escapes, or
whatever else comes. -/
def markupValue (place : Place) : Lexed :=
  let gap := skipGap place.rest place.offset false
  match gap.place.rest with
  | c :: cs =>
    if c = '"' ∨ c = '\'' then
      let body := cs.takeWhile (· ≠ c)
      match cs.dropWhile (· ≠ c) with
      | _ :: rest => finish gap.place gap.hasBreak (.string (String.ofList body)) rest none
      | [] => finish gap.place gap.hasBreak .malformed [] (some (.unterminated "string"))
    else next place
  | [] => next place

end Showcase.Script.Lexer
