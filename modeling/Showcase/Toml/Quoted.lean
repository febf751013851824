namespace Showcase.Toml

/-! # Quoted strings

The scanners take the characters after an opening quote and return what the string
denotes and what follows its closing quote; `none` if the string is malformed.
-/

/-- Characters that may not stand in a string or a comment. -/
def isControl (c : Char) : Bool := (c.toNat < 0x20 && c ≠ '\t') || c.toNat = 0x7F

def isBlank (c : Char) : Bool := c = ' ' || c = '\t'

/-- The value of exactly `count` hexadecimal digits, and what follows them. -/
def hexCode : Nat → Nat → List Char → Option (Nat × List Char)
  | 0, value, cs => some (value, cs)
  | _ + 1, _, [] => none
  | count + 1, value, c :: cs =>
    if '0' ≤ c ∧ c ≤ '9' then hexCode count (value * 16 + (c.toNat - '0'.toNat)) cs
    else if 'a' ≤ c ∧ c ≤ 'f' then hexCode count (value * 16 + (c.toNat - 'a'.toNat + 10)) cs
    else if 'A' ≤ c ∧ c ≤ 'F' then hexCode count (value * 16 + (c.toNat - 'A'.toNat + 10)) cs
    else none

def charOf (code : Nat) : Option Char :=
  if h : code.isValidChar then some (Char.ofNatAux code h) else none

/-- The character of an escape after its backslash. -/
def escaped : List Char → Option (Char × List Char)
  | '"' :: cs => some ('"', cs)
  | '\\' :: cs => some ('\\', cs)
  | 'b' :: cs => some (Char.ofNat 8, cs)
  | 'e' :: cs => some (Char.ofNat 27, cs)
  | 'f' :: cs => some (Char.ofNat 12, cs)
  | 'n' :: cs => some ('\n', cs)
  | 'r' :: cs => some ('\r', cs)
  | 't' :: cs => some ('\t', cs)
  | 'x' :: cs => code 2 cs
  | 'u' :: cs => code 4 cs
  | 'U' :: cs => code 8 cs
  | _ => none
where
  code (count : Nat) (cs : List Char) : Option (Char × List Char) := do
    let (n, rest) ← hexCode count 0 cs
    some (← charOf n, rest)

def basic : Nat → List Char → List Char → Option (String × List Char)
  | _, _, [] | 0, _, _ => none
  | fuel + 1, acc, c :: cs =>
    if c = '"' then some (String.ofList acc.reverse, cs)
    else if c = '\\' then
      match escaped cs with
      | some (d, rest) => basic fuel (d :: acc) rest
      | none => none
    else if isControl c then none
    else basic fuel (c :: acc) cs

/-- A string on one line without escapes. -/
def literal : List Char → List Char → Option (String × List Char)
  | _, [] => none
  | acc, c :: cs =>
    if c = '\'' then some (String.ofList acc.reverse, cs)
    else if isControl c then none
    else literal (c :: acc) cs

/-- What follows a line break at the front. -/
def afterBreak : List Char → Option (List Char)
  | '\n' :: cs => some cs
  | '\r' :: '\n' :: cs => some cs
  | _ => none

/-- The quotes at the end of a string over several lines: up to two of them belong to it. -/
def closing (quote : Char) (acc cs : List Char) : Option (String × List Char) :=
  let count := (cs.takeWhile (· = quote)).length
  if count < 3 then none
  else
    let inside := min count 5 - 3
    some (String.ofList (acc.reverse ++ List.replicate inside quote), cs.drop (inside + 3))

/-- What follows a backslash at the end of a line: blanks and line breaks are left out. -/
def afterContinuation (cs : List Char) : Option (List Char) :=
  match afterBreak (cs.dropWhile isBlank) with
  | some rest => some (rest.dropWhile fun c => isBlank c || c = '\n' || c = '\r')
  | none => none

def basicLines : Nat → List Char → List Char → Option (String × List Char)
  | _, _, [] | 0, _, _ => none
  | fuel + 1, acc, c :: cs =>
    if c = '"' then
      match closing '"' acc (c :: cs) with
      | some done => some done
      | none => basicLines fuel (c :: acc) cs
    else if c = '\\' then
      match afterContinuation cs with
      | some rest => basicLines fuel acc rest
      | none =>
        match escaped cs with
        | some (d, rest) => basicLines fuel (d :: acc) rest
        | none => none
    else
      match afterBreak (c :: cs) with
      | some rest => basicLines fuel ('\n' :: acc) rest
      | none => if isControl c then none else basicLines fuel (c :: acc) cs

/-- A string over several lines without escapes. -/
def literalLines : Nat → List Char → List Char → Option (String × List Char)
  | _, _, [] | 0, _, _ => none
  | fuel + 1, acc, c :: cs =>
    if c = '\'' then
      match closing '\'' acc (c :: cs) with
      | some done => some done
      | none => literalLines fuel (c :: acc) cs
    else
      match afterBreak (c :: cs) with
      | some rest => literalLines fuel ('\n' :: acc) rest
      | none => if isControl c then none else literalLines fuel (c :: acc) cs

/-- What follows the line break after an opening mark, which is left out. -/
def firstLine (cs : List Char) : List Char := (afterBreak cs).getD cs

/-- A quoted string at the front, over several lines only with `lines`. -/
def quotedString (lines : Bool) (cs : List Char) : Option (String × List Char) :=
  match cs with
  | '"' :: '"' :: '"' :: rest =>
    if lines then basicLines (rest.length + 1) [] (firstLine rest) else some ("", '"' :: rest)
  | '\'' :: '\'' :: '\'' :: rest =>
    if lines then literalLines (rest.length + 1) [] (firstLine rest) else some ("", '\'' :: rest)
  | '"' :: rest => basic (rest.length + 1) [] rest
  | '\'' :: rest => literal [] rest
  | _ => none

end Showcase.Toml
