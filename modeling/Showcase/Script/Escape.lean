import Showcase.Script.Token

namespace Showcase.Script

/-! # Escape sequences

A string or template denotes a sequence of characters and of single surrogates, which
have no character of their own.  In the text that is kept, a single surrogate is
U+FFFD followed by its four hexadecimal digits; once a text has one, a U+FFFD that
stands for itself is written the same way.
-/

/-- A unit of what a string denotes. -/
inductive Unit16 where
  | char (c : Char)
  | surrogate (code : Nat)
deriving DecidableEq, Repr

namespace Unit16

/-- Puts a unit in front of others, joining a high surrogate with a low one. -/
def join (u : Unit16) (rest : List Unit16) : List Unit16 :=
  match u, rest with
  | surrogate high, surrogate low :: tail =>
    if high < 0xDC00 ∧ 0xDC00 ≤ low then
      char (Char.ofNat (0x10000 + (high - 0xD800) * 0x400 + (low - 0xDC00))) :: tail
    else u :: rest
  | _, _ => u :: rest

/-- The character that marks a single surrogate. -/
def replacement : Char := Char.ofNat 0xFFFD

def fourDigits (n : Nat) : List Char :=
  let ds := Nat.toDigits 16 n
  List.replicate (4 - ds.length) '0' ++ ds

def isSurrogate : Unit16 → Bool
  | surrogate _ => true
  | char _ => false

/-- The text that stands for a sequence of units. -/
def text (units : List Unit16) : String :=
  let joined := units.foldr join []
  if joined.any isSurrogate then
    String.ofList (joined.flatMap fun
      | surrogate code => replacement :: fourDigits code
      | char c => if c = replacement then c :: fourDigits 0xFFFD else [c])
  else
    String.ofList (joined.filterMap fun
      | char c => some c
      | surrogate _ => none)

def ofCode (code : Nat) : Unit16 :=
  if 0xD800 ≤ code ∧ code < 0xE000 then surrogate code else char (Char.ofNat code)

end Unit16

/-- The value of exactly `count` hexadecimal digits, and what follows them. -/
def hexDigits : Nat → Nat → List Char → Option (Nat × List Char)
  | 0, value, cs => some (value, cs)
  | _ + 1, _, [] => none
  | count + 1, value, c :: cs =>
    match hexDigit? c with
    | some d => hexDigits count (value * 16 + d) cs
    | none => none

/-- The value of the hexadecimal digits up to a closing brace, and what follows it. -/
def bracedHex (value : Nat) (some? : Bool) : List Char → Option (Nat × List Char)
  | [] => none
  | c :: cs =>
    if c = '}' then (if some? then some (value, cs) else none)
    else match hexDigit? c with
      | some d => if value * 16 + d ≤ 0x10FFFF then bracedHex (value * 16 + d) true cs else none
      | none => none

/-- The code of an escape after `\u`, and what follows it. -/
def unicodeEscape : List Char → Option (Nat × List Char)
  | '{' :: cs => bracedHex 0 false cs
  | cs => hexDigits 4 0 cs

def isOctal (c : Char) : Bool := '0' ≤ c && c ≤ '7'

def octalValue (c : Char) : Nat := c.toNat - '0'.toNat

/-- An octal escape: up to three digits with a value below 256. -/
def octalEscape : List Char → Nat × List Char
  | a :: b :: c :: cs =>
    if isOctal b then
      if isOctal c && a ≤ '3' then ((octalValue a * 8 + octalValue b) * 8 + octalValue c, cs)
      else (octalValue a * 8 + octalValue b, c :: cs)
    else (octalValue a, b :: c :: cs)
  | [a, b] =>
    if isOctal b then (octalValue a * 8 + octalValue b, []) else (octalValue a, [b])
  | [a] => (octalValue a, [])
  | [] => (0, [])

/-- What stands after a backslash denotes these units, and what follows the escape.
`none` for a malformed escape.  Octal escapes are for strings only. -/
def escape (octals : Bool) : List Char → Option (List Unit16 × List Char)
  | [] => none
  | c :: cs =>
    if c = 'n' then some ([.char '\n'], cs)
    else if c = 't' then some ([.char '\t'], cs)
    else if c = 'r' then some ([.char '\r'], cs)
    else if c = 'b' then some ([.char (Char.ofNat 8)], cs)
    else if c = 'v' then some ([.char (Char.ofNat 11)], cs)
    else if c = 'f' then some ([.char (Char.ofNat 12)], cs)
    else if c = '\r' then
      match cs with
      | '\n' :: rest => some ([], rest)
      | _ => some ([], cs)
    else if isLineBreak c then some ([], cs)
    else if c = 'x' then (hexDigits 2 0 cs).map fun (code, rest) => ([.ofCode code], rest)
    else if c = 'u' then (unicodeEscape cs).map fun (code, rest) => ([.ofCode code], rest)
    else if c = '0' ∧ (cs.head?.any fun d => d.isDigit) = false then
      some ([.char (Char.ofNat 0)], cs)
    else if isOctal c then
      if octals then
        let (code, rest) := octalEscape (c :: cs)
        some ([.ofCode code], rest)
      else none
    else if c.isDigit ∧ octals = false then none
    else some ([.char c], cs)

end Showcase.Script
