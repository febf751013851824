namespace Showcase.Text

/-! # From bytes to text and back

Bytes are read as UTF-8.  Where they are no text, the fault tells from which byte on,
and how many bytes are wrong, unless the text is merely cut short.
-/

/-- The bytes of characters. -/
def encode (cs : List Char) : List UInt8 := cs.flatMap String.utf8EncodeChar

/-- Where bytes cease to be a text. -/
structure DecodeFault where
  index : Nat
  /-- The number of wrong bytes; `none` if the bytes end within a character. -/
  length : Option Nat
deriving DecidableEq, Repr

def DecodeFault.message (fault : DecodeFault) : String :=
  match fault.length with
  | some n => s!"invalid utf-8 sequence of {n} bytes from index {fault.index}"
  | none => s!"incomplete utf-8 byte sequence from index {fault.index}"

/-- How many bytes follow the first byte of a character. -/
def followers (first : Nat) : Option Nat :=
  if first < 0x80 then some 0
  else if 0xC2 ≤ first ∧ first ≤ 0xDF then some 1
  else if 0xE0 ≤ first ∧ first ≤ 0xEF then some 2
  else if 0xF0 ≤ first ∧ first ≤ 0xF4 then some 3
  else none

/-- The bytes that may come second after a first one. -/
def secondRange (first : Nat) : Nat × Nat :=
  if first = 0xE0 then (0xA0, 0xBF)
  else if first = 0xED then (0x80, 0x9F)
  else if first = 0xF0 then (0x90, 0xBF)
  else if first = 0xF4 then (0x80, 0x8F)
  else (0x80, 0xBF)

/-- The bytes of a character after its first `done` ones, `count` of them. -/
def continued (low high : Nat) (code done : Nat) : Nat → List UInt8 → Except (Option Nat) Nat
  | 0, _ => .ok code
  | _ + 1, [] => .error none
  | count + 1, b :: rest =>
    if low ≤ b.toNat ∧ b.toNat ≤ high then
      continued 0x80 0xBF (code * 64 + (b.toNat - 0x80)) (done + 1) count rest
    else .error (some done)

/-- The first character and the number of its bytes. -/
def firstChar (first : UInt8) (rest : List UInt8) : Except (Option Nat) (Char × Nat) :=
  match followers first.toNat with
  | none => .error (some 1)
  | some count =>
    let (low, high) := secondRange first.toNat
    let lead :=
      if count = 0 then first.toNat
      else if count = 1 then first.toNat - 0xC0
      else if count = 2 then first.toNat - 0xE0
      else first.toNat - 0xF0
    match continued low high lead 1 count rest with
    | .ok code => .ok (Char.ofNat code, count + 1)
    | .error length => .error length

/-- The text of the bytes from `index` on, after the characters `acc` in reverse. -/
def decodeFrom : Nat → Nat → List Char → List UInt8 → Except DecodeFault String
  | _, _, acc, [] => .ok (String.ofList acc.reverse)
  | 0, _, acc, _ => .ok (String.ofList acc.reverse)
  | fuel + 1, index, acc, b :: rest =>
    match firstChar b rest with
    | .ok (c, count) => decodeFrom fuel (index + count) (c :: acc) ((b :: rest).drop count)
    | .error length => .error { index, length }

def decode (bytes : List UInt8) : Except DecodeFault String :=
  decodeFrom bytes.length 0 [] bytes

end Showcase.Text
