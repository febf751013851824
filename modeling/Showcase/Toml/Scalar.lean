import Showcase.Toml.Value
import Showcase.Number.Binary64

namespace Showcase.Toml

/-! # Booleans, numbers and dates -/

/-- Whether digits, grouped by single underscores, make up a text. -/
def isGrouped (isDigit : Char → Bool) : List Char → Bool
  | [] => false
  | [c] => isDigit c
  | c :: '_' :: rest => isDigit c && isGrouped isDigit rest
  | c :: rest => isDigit c && isGrouped isDigit rest

def isHexDigit (c : Char) : Bool :=
  c.isDigit || ('a' ≤ c && c ≤ 'f') || ('A' ≤ c && c ≤ 'F')

def hexValue (c : Char) : Nat :=
  if c.isDigit then c.toNat - '0'.toNat
  else if 'a' ≤ c then c.toNat - 'a'.toNat + 10
  else c.toNat - 'A'.toNat + 10

/-- The number that grouped digits denote. -/
def groupedValue (base : Nat) (cs : List Char) : Nat :=
  (cs.filter (· ≠ '_')).foldl (fun v c => v * base + hexValue c) 0

/-- A text without its sign, and whether that is a minus. -/
def unsigned : List Char → Bool × List Char
  | '-' :: rest => (true, rest)
  | '+' :: rest => (false, rest)
  | rest => (false, rest)

/-- The bounds of integers. -/
def isInRange (negative : Bool) (n : Nat) : Bool :=
  if negative then n ≤ Nat.pow 2 127 else n < Nat.pow 2 128

/-- Whether digits make up a decimal integer, which has no zero in front. -/
def isDecimal : List Char → Bool
  | ['0'] => true
  | '0' :: _ => false
  | cs => isGrouped Char.isDigit cs

def integer? (cs : List Char) : Option Toml :=
  match cs with
  | '0' :: 'x' :: ds =>
    if isGrouped isHexDigit ds then some (.number (isInRange false (groupedValue 16 ds))) else none
  | '0' :: 'o' :: ds =>
    if isGrouped (fun c => '0' ≤ c && c ≤ '7') ds then
      some (.number (isInRange false (groupedValue 8 ds)))
    else none
  | '0' :: 'b' :: ds =>
    if isGrouped (fun c => c = '0' || c = '1') ds then
      some (.number (isInRange false (groupedValue 2 ds)))
    else none
  | cs =>
    let (negative, ds) := unsigned cs
    if isDecimal ds then some (.number (isInRange negative (groupedValue 10 ds))) else none

/-- The exponent after its letter. -/
def exponent? (cs : List Char) : Option Int :=
  let (negative, ds) := unsigned cs
  if isGrouped Char.isDigit ds then
    some (if negative then -(groupedValue 10 ds : Int) else groupedValue 10 ds)
  else none

/-- Whether a value is finite. -/
def isFinite : Binary64 → Bool
  | .finite _ _ _ => true
  | .infinite _ => false

/-- A number with a fraction or an exponent, or one of the names for what is no number or
infinite. -/
def float? (cs : List Char) : Option Toml :=
  let (negative, body) := unsigned cs
  if body = "inf".toList ∨ body = "nan".toList then some (.number true)
  else
    let isMark (c : Char) : Bool := c = '.' || c = 'e' || c = 'E'
    let whole := body.takeWhile (!isMark ·)
    if !isDecimal whole then none
    else
      match body.dropWhile (!isMark ·) with
      | [] => none
      | '.' :: rest =>
        let fraction := rest.takeWhile (!isMark ·)
        if !isGrouped Char.isDigit fraction then none
        else
          let scale : Int := (fraction.filter (· ≠ '_')).length
          let digits := groupedValue 10 (whole ++ fraction)
          match rest.dropWhile (!isMark ·) with
          | [] => some (.number (isFinite (.ofDecimal negative digits (-scale))))
          | '.' :: _ => none
          | _ :: exponent =>
            (exponent? exponent).map fun e =>
              .number (isFinite (.ofDecimal negative digits (e - scale)))
      | _ :: exponent =>
        (exponent? exponent).map fun e =>
          .number (isFinite (.ofDecimal negative (groupedValue 10 whole) e))

def pair? (low high : Nat) : List Char → Option (List Char)
  | a :: b :: rest =>
    let n := hexValue a * 10 + hexValue b
    if a.isDigit && b.isDigit && low ≤ n && n ≤ high then some rest else none
  | _ => none

def isLeapYear (year : Nat) : Bool := year % 4 = 0 && (year % 100 ≠ 0 || year % 400 = 0)

def monthLength (year month : Nat) : Nat :=
  if month = 2 then (if isLeapYear year then 29 else 28)
  else if month = 4 ∨ month = 6 ∨ month = 9 ∨ month = 11 then 30
  else 31

def afterDate : List Char → Option (List Char)
  | a :: b :: c :: d :: '-' :: rest =>
    if [a, b, c, d].all Char.isDigit then
      match rest, pair? 1 12 rest with
      | m :: n :: _, some ('-' :: more) =>
        pair? 1 (monthLength (groupedValue 10 [a, b, c, d]) (hexValue m * 10 + hexValue n)) more
      | _, _ => none
    else none
  | _ => none

/-- The fraction of a second. -/
def afterFraction : List Char → Option (List Char)
  | '.' :: rest =>
    if (rest.takeWhile Char.isDigit).isEmpty then none else some (rest.dropWhile Char.isDigit)
  | rest => some rest

/-- A time of day at the front; the seconds may be left out. -/
def afterTime (cs : List Char) : Option (List Char) :=
  match pair? 0 23 cs with
  | some (':' :: rest) =>
    match pair? 0 59 rest with
    | some (':' :: rest) => (pair? 0 60 rest).bind afterFraction
    | some rest => some rest
    | none => none
  | _ => none

/-- Whether a text is a time zone, or nothing. -/
def isZone : List Char → Bool
  | [] | ['Z'] | ['z'] => true
  | sign :: cs =>
    (sign = '+' || sign = '-') &&
      match pair? 0 23 cs with
      | some (':' :: rest) => pair? 0 59 rest == some []
      | _ => false

/-- Whether a text is a date, a time of day, or both. -/
def isDate (cs : List Char) : Bool :=
  match afterDate cs with
  | some [] => true
  | some (mark :: rest) =>
    (mark = 'T' || mark = 't' || mark = ' ') && (afterTime rest).any isZone
  | none => afterTime cs == some []

def scalar? (cs : List Char) : Option Toml :=
  if cs = "true".toList then some (.boolean true)
  else if cs = "false".toList then some (.boolean false)
  else
    match integer? cs with
    | some v => some v
    | none =>
      match float? cs with
      | some v => some v
      | none => if isDate cs then some .date else none

end Showcase.Toml
