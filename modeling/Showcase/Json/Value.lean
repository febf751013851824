import Showcase.Number.Shortest

namespace Showcase

/-! # JSON values

The members of an object are written in the order in which they are kept.  Those that
are put in one by one are kept in ascending order of their names, one for each name.
-/

/-- A number: an integer, or a value with a binary exponent. -/
inductive JsonNumber where
  | int (value : Int)
  | float (value : Binary64)
deriving DecidableEq, Repr

/-- A JSON value. -/
inductive Json where
  | null
  | bool (value : Bool)
  | number (value : JsonNumber)
  | string (value : String)
  | array (items : List Json)
  | object (members : List (String × Json))
deriving Repr, Inhabited

namespace Json

/-- Gives the member `key` the value `value`. -/
def insert (key : String) (value : Json) : List (String × Json) → List (String × Json)
  | [] => [(key, value)]
  | (k, v) :: rest =>
    if key < k then (key, value) :: (k, v) :: rest
    else if key = k then (key, value) :: rest
    else (k, v) :: insert key value rest

/-- Adds a member behind the others, whatever their names. -/
def append (key : String) (value : Json) (members : List (String × Json)) :
    List (String × Json) :=
  members ++ [(key, value)]

mutual

/-- A value with the members of its objects put in one by one. -/
def ordered : Json → Json
  | array items => array (orderedItems items)
  | object members => object (orderedMembers [] members)
  | v => v

def orderedItems : List Json → List Json
  | [] => []
  | v :: vs => ordered v :: orderedItems vs

/-- `kept` have been put in before. -/
def orderedMembers (kept : List (String × Json)) : List (String × Json) → List (String × Json)
  | [] => kept
  | (k, v) :: ms => orderedMembers (insert k (ordered v) kept) ms

end

/-- The value of the member `key`. -/
def member? (members : List (String × Json)) (key : String) : Option Json :=
  (members.find? (·.1 = key)).map (·.2)

/-- How numbers with a fraction or a large exponent are laid out. -/
def numberLayout : NumberLayout := { digitsBefore := 16, zerosAfter := 4, plusSign := true }

def hexDigit (n : Nat) : Char := "0123456789abcdef".toList.getD n '0'

/-- A character inside a quoted string. -/
def escapeChar (c : Char) : List Char :=
  if c = '"' then ['\\', '"']
  else if c = '\\' then ['\\', '\\']
  else if c = '\n' then ['\\', 'n']
  else if c = '\r' then ['\\', 'r']
  else if c = '\t' then ['\\', 't']
  else if c.toNat = 8 then ['\\', 'b']
  else if c.toNat = 12 then ['\\', 'f']
  else if c.toNat < 32 then
    ['\\', 'u', '0', '0', hexDigit (c.toNat / 16), hexDigit (c.toNat % 16)]
  else [c]

def quote (s : String) : String :=
  String.ofList ('"' :: s.toList.flatMap escapeChar ++ ['"'])

def writeNumber : JsonNumber → String
  | .int n => toString n
  | .float v =>
    match v with
    | .infinite _ => "null"
    | v => v.display numberLayout

def newline (level : Nat) : String := "\n" ++ String.ofList (List.replicate (2 * level) ' ')

mutual

/-- A value over several lines, two blanks to a level. -/
def pretty (level : Nat) : Json → String
  | null => "null"
  | bool b => if b then "true" else "false"
  | number n => writeNumber n
  | string s => quote s
  | array [] => "[]"
  | array (v :: vs) =>
    "[" ++ newline (level + 1) ++ pretty (level + 1) v ++ prettyItems (level + 1) vs ++
      newline level ++ "]"
  | object [] => "\x7b\x7d"
  | object ((k, v) :: ms) =>
    "\x7b" ++ newline (level + 1) ++ quote k ++ ": " ++ pretty (level + 1) v ++
      prettyMembers (level + 1) ms ++ newline level ++ "\x7d"

def prettyItems (level : Nat) : List Json → String
  | [] => ""
  | v :: vs => "," ++ newline level ++ pretty level v ++ prettyItems level vs

def prettyMembers (level : Nat) : List (String × Json) → String
  | [] => ""
  | (k, v) :: ms =>
    "," ++ newline level ++ quote k ++ ": " ++ pretty level v ++ prettyMembers level ms

end

end Json

end Showcase
