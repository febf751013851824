namespace Showcase

/-! # Points in time

A point in time is written as a date and a time of day in universal time.  A leap second
belongs to the second before it, with a fraction of one or more.
-/

/-- A point in time: seconds since the beginning of 1970, and nanoseconds. -/
structure Timestamp where
  seconds : Int
  nanoseconds : Nat
deriving DecidableEq, Repr, Inhabited

namespace Timestamp

def epoch : Timestamp := ⟨0, 0⟩

/-- Days from the beginning of 1970 to a date.  Years begin in March here, so that the
leap day comes last. -/
def daysOfDate (year : Int) (month day : Nat) : Int :=
  let y := if month ≤ 2 then year - 1 else year
  let era := y.fdiv 400
  let yearOfEra := y - era * 400
  let shifted : Int := if 2 < month then (month : Int) - 3 else (month : Int) + 9
  let dayOfYear := (153 * shifted + 2).fdiv 5 + (day : Int) - 1
  let dayOfEra := yearOfEra * 365 + yearOfEra.fdiv 4 - yearOfEra.fdiv 100 + dayOfYear
  era * 146097 + dayOfEra - 719468

/-- The date that many days after the beginning of 1970. -/
def dateOfDays (days : Int) : Int × Int × Int :=
  let z := days + 719468
  let era := z.fdiv 146097
  let dayOfEra := z - era * 146097
  let yearOfEra :=
    (dayOfEra - dayOfEra.fdiv 1460 + dayOfEra.fdiv 36524 - dayOfEra.fdiv 146096).fdiv 365
  let dayOfYear := dayOfEra - (365 * yearOfEra + yearOfEra.fdiv 4 - yearOfEra.fdiv 100)
  let shifted := (5 * dayOfYear + 2).fdiv 153
  let day := dayOfYear - (153 * shifted + 2).fdiv 5 + 1
  let month := if shifted < 10 then shifted + 3 else shifted - 9
  (yearOfEra + era * 400 + (if month ≤ 2 then 1 else 0), month, day)

/-- A number with zeros in front up to a width. -/
def padded (width n : Nat) : String :=
  let ds := Nat.toDigits 10 n
  String.ofList (List.replicate (width - ds.length) '0' ++ ds)

def yearText (year : Int) : String :=
  if 0 ≤ year ∧ year ≤ 9999 then padded 4 year.toNat
  else (if year < 0 then "-" else "+") ++ padded 4 year.natAbs

/-- The fraction of a second, with three, six or nine digits. -/
def fractionText (nanoseconds : Nat) : String :=
  if nanoseconds = 0 then ""
  else if nanoseconds % 1000000 = 0 then "." ++ padded 3 (nanoseconds / 1000000)
  else if nanoseconds % 1000 = 0 then "." ++ padded 6 (nanoseconds / 1000)
  else "." ++ padded 9 nanoseconds

/-- A second, in nanoseconds. -/
def second : Nat := 1000000000

def display (t : Timestamp) : String :=
  let days := t.seconds.fdiv 86400
  let ofDay := (t.seconds - days * 86400).toNat
  let (year, month, day) := dateOfDays days
  let leap := second ≤ t.nanoseconds
  let seconds := ofDay % 60 + (if leap then 1 else 0)
  let nanoseconds := if leap then t.nanoseconds - second else t.nanoseconds
  yearText year ++ "-" ++ padded 2 month.toNat ++ "-" ++ padded 2 day.toNat ++ "T" ++
    padded 2 (ofDay / 3600) ++ ":" ++ padded 2 (ofDay / 60 % 60) ++ ":" ++ padded 2 seconds ++
    fractionText nanoseconds ++ "Z"

/-- The value of exactly `count` digits, and what follows them. -/
def digits? : Nat → Nat → List Char → Option (Nat × List Char)
  | 0, value, cs => some (value, cs)
  | count + 1, value, c :: cs =>
    if c.isDigit then digits? count (value * 10 + (c.toNat - '0'.toNat)) cs else none
  | _ + 1, _, [] => none

def mark? (c : Char) : List Char → Option (List Char)
  | d :: cs => if c = d then some cs else none
  | [] => none

def isLeapYear (year : Nat) : Bool :=
  year % 4 = 0 && (year % 100 ≠ 0 || year % 400 = 0)

def daysInMonth (year month : Nat) : Nat :=
  if month = 2 then (if isLeapYear year then 29 else 28)
  else if month = 4 ∨ month = 6 ∨ month = 9 ∨ month = 11 then 30
  else 31

/-- The nanoseconds of a fraction after its point. -/
def nanosecondsOf (ds : List Char) : Nat :=
  let kept := ds.take 9
  kept.foldl (fun v d => v * 10 + (d.toNat - '0'.toNat)) 0 * Nat.pow 10 (9 - kept.length)

/-- The seconds by which a time zone is ahead. -/
def zone? : List Char → Option Int
  | ['Z'] | ['z'] => some 0
  | sign :: cs => do
    let (hours, cs) ← digits? 2 0 cs
    let cs ← mark? ':' cs
    let (minutes, cs) ← digits? 2 0 cs
    if !cs.isEmpty || 59 < minutes then none
    let ahead : Int := hours * 3600 + minutes * 60
    if sign = '+' then some ahead else if sign = '-' then some (-ahead) else none
  | [] => none

def parse? (text : String) : Option Timestamp := do
  let (year, cs) ← digits? 4 0 text.toList
  let (month, cs) ← digits? 2 0 (← mark? '-' cs)
  let (day, cs) ← digits? 2 0 (← mark? '-' cs)
  let cs ← match cs with
    | 'T' :: cs | 't' :: cs | ' ' :: cs => some cs
    | _ => none
  let (hour, cs) ← digits? 2 0 cs
  let (minute, cs) ← digits? 2 0 (← mark? ':' cs)
  let (secs, cs) ← digits? 2 0 (← mark? ':' cs)
  let (fraction, cs) := match cs with
    | '.' :: rest => (rest.takeWhile Char.isDigit, rest.dropWhile Char.isDigit)
    | rest => ([], rest)
  let ahead ← zone? cs
  if month = 0 || 12 < month || day = 0 || daysInMonth year month < day then none
  if 23 < hour || 59 < minute || 60 < secs then none
  let whole := min secs 59
  let nanoseconds := nanosecondsOf fraction + (if secs = 60 then second else 0)
  some {
    seconds := daysOfDate year month day * 86400 + (hour * 3600 + minute * 60 + whole : Nat) - ahead
    nanoseconds }

end Timestamp

end Showcase
