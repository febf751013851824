import Showcase.Json.Value
import Showcase.Text.Utf8

namespace Showcase

open Text

/-! # Reading JSON

A text is read as one value with blanks around it.  The reader works on the
characters that are left; where it stops, the problem is reported with the line and
the byte column up to which the text was looked at.  Members of an object are put in one by
one, or all of them are kept as they stand.
-/

/-- Why a text is no JSON value. -/
inductive JsonProblem where
  | endInList
  | endInObject
  | endInString
  | endInValue
  | colonMissing
  | listMarkMissing
  | objectMarkMissing
  | badWord
  | valueMissing
  | badEscape
  | badNumber
  | numberTooLarge
  | controlCharacter
  | keyNoString
  | loneSurrogate
  | trailingComma
  | trailingCharacters
  | cutHexEscape
  | tooDeep
deriving DecidableEq, Repr

def JsonProblem.message : JsonProblem → String
  | endInList => "EOF while parsing a list"
  | endInObject => "EOF while parsing an object"
  | endInString => "EOF while parsing a string"
  | endInValue => "EOF while parsing a value"
  | colonMissing => "expected \x60:\x60"
  | listMarkMissing => "expected \x60,\x60 or \x60]\x60"
  | objectMarkMissing => "expected \x60,\x60 or \x60\x7d\x60"
  | badWord => "expected ident"
  | valueMissing => "expected value"
  | badEscape => "invalid escape"
  | badNumber => "invalid number"
  | numberTooLarge => "number out of range"
  | controlCharacter => "control character (\\u0000-\\u001F) found while parsing a string"
  | keyNoString => "key must be a string"
  | loneSurrogate => "lone leading surrogate in hex escape"
  | trailingComma => "trailing comma"
  | trailingCharacters => "trailing characters"
  | cutHexEscape => "unexpected end of hex escape"
  | tooDeep => "recursion limit exceeded"

/-- A problem with its place in the text. -/
structure JsonFault where
  problem : JsonProblem
  line : Nat
  column : Nat
deriving DecidableEq, Repr

def JsonFault.message (fault : JsonFault) : String :=
  s!"{fault.problem.message} at line {fault.line} column {fault.column}"

namespace Json.Reader

/-- Where reading stopped: the characters that were left, and how many bytes of them had
been looked at. -/
structure Stop where
  problem : JsonProblem
  rest : List Char
  ahead : Nat

/-- What a step read, and what is left. -/
abbrev Step (α : Type) := Except Stop (α × List Char)

/-- Stops at the next character, which was looked at. -/
def stopAt (problem : JsonProblem) (rest : List Char) : Step α :=
  .error { problem, rest, ahead := 1 }

/-- Stops after the last character. -/
def stopAfter (problem : JsonProblem) (rest : List Char) : Step α :=
  .error { problem, rest, ahead := 0 }

/-- Blanks between the parts of a value. -/
def isSpace (c : Char) : Bool := c = ' ' || c = '\n' || c = '\t' || c = '\r'

def skipSpace (cs : List Char) : List Char := cs.dropWhile isSpace

/-- The rest of a word. -/
def word (value : Json) : List Char → List Char → Step Json
  | [], cs => .ok (value, cs)
  | w :: ws, c :: cs => if c = w then word value ws cs else stopAt .badWord (c :: cs)
  | _ :: _, [] => stopAt .endInValue []

def hexValue (c : Char) : Option Nat :=
  if '0' ≤ c ∧ c ≤ '9' then some (c.toNat - '0'.toNat)
  else if 'a' ≤ c ∧ c ≤ 'f' then some (c.toNat - 'a'.toNat + 10)
  else if 'A' ≤ c ∧ c ≤ 'F' then some (c.toNat - 'A'.toNat + 10)
  else none

def fourHex (cs : List Char) : Step Nat :=
  if byteLength cs < 4 then stopAfter .endInString []
  else
    match cs with
    | a :: b :: c :: d :: rest =>
      match hexValue a, hexValue b, hexValue c, hexValue d with
      | some a, some b, some c, some d => .ok (((a * 16 + b) * 16 + c) * 16 + d, rest)
      | _, _, _, _ => .error ⟨.badEscape, cs, 4⟩
    | _ => .error ⟨.badEscape, cs, 4⟩

/-- What follows the first half of a character written in two escapes. -/
def secondHalf (high : Nat) (cs : List Char) : Step Char :=
  match cs with
  | [] => stopAfter .endInString []
  | '\\' :: [] => stopAfter .endInString []
  | '\\' :: 'u' :: rest =>
    match fourHex rest with
    | .error stop => .error stop
    | .ok (low, rest) =>
      if low < 0xDC00 ∨ 0xDFFF < low then stopAfter .loneSurrogate rest
      else .ok (Char.ofNat (0x10000 + (high - 0xD800) * 0x400 + (low - 0xDC00)), rest)
  | '\\' :: rest => stopAt .cutHexEscape rest
  | rest => stopAt .cutHexEscape rest

/-- The character of an escape that began with a backslash and `u`. -/
def unicode (cs : List Char) : Step Char :=
  match fourHex cs with
  | .error stop => .error stop
  | .ok (code, rest) =>
    if 0xDC00 ≤ code ∧ code ≤ 0xDFFF then stopAfter .loneSurrogate rest
    else if 0xD800 ≤ code ∧ code ≤ 0xDBFF then secondHalf code rest
    else .ok (Char.ofNat code, rest)

/-- The character of an escape after its backslash. -/
def escaped : List Char → Step Char
  | [] => stopAfter .endInString []
  | '"' :: cs => .ok ('"', cs)
  | '\\' :: cs => .ok ('\\', cs)
  | '/' :: cs => .ok ('/', cs)
  | 'b' :: cs => .ok (Char.ofNat 8, cs)
  | 'f' :: cs => .ok (Char.ofNat 12, cs)
  | 'n' :: cs => .ok ('\n', cs)
  | 'r' :: cs => .ok ('\r', cs)
  | 't' :: cs => .ok ('\t', cs)
  | 'u' :: cs => unicode cs
  | cs => stopAt .badEscape cs

/-- The characters of a string up to its closing quote. -/
def stringBody : Nat → List Char → List Char → Step String
  | _, _, [] => stopAfter .endInString []
  | _, acc, '"' :: cs => .ok (String.ofList acc.reverse, cs)
  | 0, _, cs => stopAt .endInString cs
  | fuel + 1, acc, '\\' :: cs =>
    match escaped cs with
    | .error stop => .error stop
    | .ok (c, rest) => stringBody fuel (c :: acc) rest
  | fuel + 1, acc, c :: cs =>
    if c.toNat < 32 then stopAt .controlCharacter (c :: cs) else stringBody fuel (c :: acc) cs

/-- A string after its opening quote. -/
def string (cs : List Char) : Step String := stringBody cs.length [] cs

def digitValue (c : Char) : Nat := c.toNat - '0'.toNat

/-- The number that a run of digits continues. -/
def digitsValue (start : Nat) (ds : List Char) : Nat :=
  ds.foldl (fun v d => v * 10 + digitValue d) start

/-- The bound of exponents. -/
def exponentBound : Nat := Nat.pow 2 31

/-- The digits of an exponent.  A positive one that passes the bound ends the number. -/
def exponentDigits (positive isZero : Bool) (value : Nat) : List Char → Step Nat
  | [] => .ok (value, [])
  | c :: cs =>
    if c.isDigit then
      let value := value * 10 + digitValue c
      if positive && !isZero && exponentBound ≤ value then stopAfter .numberTooLarge cs
      else exponentDigits positive isZero value cs
    else .ok (value, c :: cs)

def floating (negative : Bool) (digits : Nat) (exponent : Int) (rest : List Char) : Step Json :=
  match Binary64.ofDecimal negative digits exponent with
  | .infinite _ => stopAfter .numberTooLarge rest
  | value => .ok (.number (.float value), rest)

/-- An exponent after its sign, for digits that stand `scale` places too far left. -/
def unsignedExponent (negative positive : Bool) (digits scale : Nat) (cs : List Char) :
    Step Json :=
  match cs with
  | [] => stopAt .endInValue []
  | c :: _ =>
    if !c.isDigit then stopAt .badNumber cs
    else
      match exponentDigits positive (digits == 0) 0 cs with
      | .error stop => .error stop
      | .ok (value, rest) =>
        floating negative digits ((if positive then (value : Int) else -(value : Int)) - scale) rest

/-- An exponent after its letter. -/
def exponent (negative : Bool) (digits scale : Nat) (cs : List Char) : Step Json :=
  match cs with
  | '+' :: rest => unsignedExponent negative true digits scale rest
  | '-' :: rest => unsignedExponent negative false digits scale rest
  | rest => unsignedExponent negative true digits scale rest

/-- A fraction after its point. -/
def fraction (negative : Bool) (whole : Nat) (cs : List Char) : Step Json :=
  let ds := cs.takeWhile Char.isDigit
  let rest := cs.dropWhile Char.isDigit
  if ds.isEmpty then stopAt (if rest.isEmpty then .endInValue else .badNumber) rest
  else
    let digits := digitsValue whole ds
    match rest with
    | 'e' :: more | 'E' :: more => exponent negative digits ds.length more
    | rest => floating negative digits (-(ds.length : Int)) rest

/-- The bounds of whole numbers that are kept as integers. -/
def largestWhole : Nat := Nat.pow 2 64 - 1

def smallestWhole : Nat := Nat.pow 2 63

/-- A number whose whole part has been read. -/
def afterWhole (negative : Bool) (whole : Nat) (cs : List Char) : Step Json :=
  match cs with
  | '.' :: rest => fraction negative whole rest
  | 'e' :: rest | 'E' :: rest => exponent negative whole 0 rest
  | rest =>
    if negative then
      if whole = 0 ∨ smallestWhole < whole then floating true whole 0 rest
      else .ok (.number (.int (-(whole : Int))), rest)
    else if whole ≤ largestWhole then .ok (.number (.int whole), rest)
    else floating false whole 0 rest

/-- A number after its sign. -/
def number (negative : Bool) (cs : List Char) : Step Json :=
  match cs with
  | [] => stopAt .endInValue []
  | '0' :: rest =>
    if rest.head?.any Char.isDigit then stopAt .badNumber rest else afterWhole negative 0 rest
  | c :: _ =>
    if c.isDigit then
      afterWhole negative (digitsValue 0 (cs.takeWhile Char.isDigit)) (cs.dropWhile Char.isDigit)
    else stopAt .badNumber cs

/-- The elements of an array up to its end. -/
def elements (item : List Char → Step Json) : Nat → Bool → List Json → List Char → Step Json
  | 0, _, _, cs => stopAt .endInList cs
  | fuel + 1, first, acc, cs =>
    let next (cs : List Char) : Step Json :=
      match item cs with
      | .error stop => .error stop
      | .ok (v, rest) => elements item fuel false (v :: acc) rest
    match skipSpace cs with
    | [] => stopAt .endInList []
    | ']' :: rest => .ok (.array acc.reverse, rest)
    | c :: rest =>
      if first then next (c :: rest)
      else if c = ',' then
        match skipSpace rest with
        | [] => stopAt .endInValue []
        | ']' :: more => stopAt .trailingComma (']' :: more)
        | rest => next rest
      else stopAt .listMarkMissing (c :: rest)

/-- A member of an object, from its key on. -/
def member (item : List Char → Step Json) (cs : List Char) : Step (String × Json) :=
  match cs with
  | '"' :: cs =>
    match string cs with
    | .error stop => .error stop
    | .ok (key, rest) =>
      match skipSpace rest with
      | [] => stopAt .endInObject []
      | ':' :: rest =>
        match item rest with
        | .error stop => .error stop
        | .ok (v, rest) => .ok ((key, v), rest)
      | rest => stopAt .colonMissing rest
  | cs => stopAt .keyNoString cs

/-- How a member is added to those that have been read. -/
abbrev Put := String → Json → List (String × Json) → List (String × Json)

/-- The members of an object up to its end. -/
def members (put : Put) (item : List Char → Step Json) :
    Nat → Bool → List (String × Json) → List Char → Step Json
  | 0, _, _, cs => stopAt .endInObject cs
  | fuel + 1, first, acc, cs =>
    let next (cs : List Char) : Step Json :=
      match member item cs with
      | .error stop => .error stop
      | .ok ((k, v), rest) => members put item fuel false (put k v acc) rest
    match skipSpace cs with
    | [] => stopAt .endInObject []
    | '\x7d' :: rest => .ok (.object acc, rest)
    | c :: rest =>
      if first then next (c :: rest)
      else if c = ',' then
        match skipSpace rest with
        | [] => stopAt .endInValue []
        | '\x7d' :: more => stopAt .trailingComma ('\x7d' :: more)
        | rest => next rest
      else stopAt .objectMarkMissing (c :: rest)

/-- A value; `inner` reads the values in it, unless it may have none. -/
def valueWith (put : Put) (inner : Option (List Char → Step Json)) (cs : List Char) :
    Step Json :=
  match skipSpace cs with
  | [] => stopAt .endInValue []
  | 'n' :: rest => word .null ['u', 'l', 'l'] rest
  | 't' :: rest => word (.bool true) ['r', 'u', 'e'] rest
  | 'f' :: rest => word (.bool false) ['a', 'l', 's', 'e'] rest
  | '-' :: rest => number true rest
  | '"' :: rest =>
    match string rest with
    | .error stop => .error stop
    | .ok (s, rest) => .ok (.string s, rest)
  | '[' :: rest =>
    match inner with
    | none => stopAt .tooDeep ('[' :: rest)
    | some item => elements item (rest.length + 1) true [] rest
  | '\x7b' :: rest =>
    match inner with
    | none => stopAt .tooDeep ('\x7b' :: rest)
    | some item => members put item (rest.length + 1) true [] rest
  | c :: rest => if c.isDigit then number false (c :: rest) else stopAt .valueMissing (c :: rest)

/-- A value in which arrays and objects are nested at most `depth` deep. -/
def value (put : Put) : Nat → List Char → Step Json
  | 0 => valueWith put none
  | depth + 1 => valueWith put (some (value put depth))

/-- A value with blanks around it and nothing else. -/
def document (put : Put) (depth : Nat) (cs : List Char) : Except Stop Json :=
  match value put depth cs with
  | .error stop => .error stop
  | .ok (v, rest) =>
    match skipSpace rest with
    | [] => .ok v
    | rest => .error ⟨.trailingCharacters, rest, 1⟩

/-- The line and the column of a stop in the text `cs`. -/
def Stop.fault (cs : List Char) (stop : Stop) : JsonFault :=
  let index := min (byteLength cs) (byteLength cs - byteLength stop.rest + stop.ahead)
  let before := takeBytes index cs
  let last := (before.reverse.takeWhile (· ≠ '\n')).reverse
  { problem := stop.problem
    line := before.count '\n' + 1
    column := index - (byteLength before - byteLength last) }

end Json.Reader

/-- How deep arrays and objects may be nested in a text. -/
def Json.depthLimit : Nat := 127

/-- Reads a text with a bound on the nesting.  A later member of an object replaces an earlier
one of the same name. -/
def Json.parseWithin (depth : Nat) (text : String) : Except JsonFault Json :=
  match Json.Reader.document Json.insert depth text.toList with
  | .ok v => .ok v
  | .error stop => .error (stop.fault text.toList)

def Json.parse (text : String) : Except JsonFault Json := Json.parseWithin Json.depthLimit text

end Showcase
