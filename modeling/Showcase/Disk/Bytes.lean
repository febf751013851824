import Showcase.Text.Decode

namespace Showcase

/-! # Paths and their bytes

The name of a file is made of bytes, which need not be a text.  A path is kept as a string
in which a byte that belongs to no character is written as a null character and the
character of the same number.  No file name holds a null character, so one that comes from
a text is written twice, and what is a path and what is a text can be told apart.
-/

/-- A part of a path: a character, or a byte that belongs to none. -/
inductive PathUnit where
  | char (c : Char)
  | byte (b : UInt8)
deriving DecidableEq, Repr

namespace PathUnit

def char? : PathUnit → Option Char
  | char c => some c
  | byte _ => none

def bytes : PathUnit → List UInt8
  | char c => String.utf8EncodeChar c
  | byte b => [b]

end PathUnit

namespace Path

/-- The character before a byte that belongs to no character. -/
def mark : Char := Char.ofNat 0

/-- The byte for which a character stands after the mark. -/
def marked? (c : Char) : Option UInt8 :=
  if 0x80 ≤ c.toNat ∧ c.toNat ≤ 0xFF then some (.ofNat c.toNat) else none

/-- The parts of a path.  A mark before anything else is itself a byte. -/
def unitsOf : List Char → List PathUnit
  | [] => []
  | [c] => [if c = mark then .byte 0 else .char c]
  | c :: d :: rest =>
    if c ≠ mark then .char c :: unitsOf (d :: rest)
    else if d = mark then .char mark :: unitsOf rest
    else
      match marked? d with
      | some b => .byte b :: unitsOf rest
      | none => .byte 0 :: unitsOf (d :: rest)

def units (path : String) : List PathUnit := unitsOf path.toList

/-- The bytes that the system knows a path by. -/
def bytes (path : String) : List UInt8 := (units path).flatMap PathUnit.bytes

/-- The number of bytes of a path. -/
def size (path : String) : Nat := (bytes path).length

/-- How a character of a text is written in a path. -/
def written (c : Char) : List Char := if c = mark then [mark, mark] else [c]

/-- A text as a path. -/
def ofText (text : String) : String := String.ofList (text.toList.flatMap written)

/-- The text that a path is, unless some byte of it belongs to no character. -/
def text? (path : String) : Option String :=
  ((units path).mapM PathUnit.char?).map String.ofList

/-- The bytes that stand before the next character. -/
def leadingBytes : List PathUnit → List UInt8
  | .byte b :: rest => b :: leadingBytes rest
  | _ => []

/-- How many more bytes are shown with the byte `b` as one: those with which it could have
begun a character. -/
def companions (b : UInt8) (after : List UInt8) : Nat :=
  match Text.firstChar b after with
  | .ok (_, count) => count - 1
  | .error (some count) => count - 1
  | .error none => after.length

/-- The character that is shown for bytes that are none. -/
def replacement : Char := Char.ofNat 0xFFFD

/-- The characters that are shown of units, after `skip` bytes that have been shown. -/
def shownFrom : Nat → List PathUnit → List Char
  | _, [] => []
  | _, .char c :: rest => c :: shownFrom 0 rest
  | skip + 1, .byte _ :: rest => shownFrom skip rest
  | 0, .byte b :: rest => replacement :: shownFrom (companions b (leadingBytes rest)) rest

/-- A path as it is shown to people. -/
def shown (path : String) : String := String.ofList (shownFrom 0 (units path))

/-- The path of bytes, after `skip` of them that have been read. -/
def ofBytesFrom : Nat → List UInt8 → List Char
  | _, [] => []
  | skip + 1, _ :: rest => ofBytesFrom skip rest
  | 0, b :: rest =>
    match Text.firstChar b rest with
    | .ok (c, count) => written c ++ ofBytesFrom (count - 1) rest
    | .error _ => mark :: Char.ofNat b.toNat :: ofBytesFrom 0 rest

/-- The path that the system knows by some bytes. -/
def ofBytes (bytes : List UInt8) : String := String.ofList (ofBytesFrom 0 bytes)

end Path

end Showcase
