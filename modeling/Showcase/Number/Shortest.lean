import Showcase.Number.Binary64

namespace Showcase

/-! # The shortest decimal that reads back

A finite value is written with the fewest decimal digits that still read back as
the same value, and among those with the digits nearest to it.  The search goes
through the decimal grids from coarse to fine: on each grid only the two
neighbours of the value can lie in the interval of reals that round to it.
-/

namespace Binary64

/-- Whether `k · 10 ^ p` rounds to the value `mantissa · 2 ^ exponent`. -/
def readsBack (mantissa : Nat) (exponent : Int) (k : Nat) (p : Int) : Bool :=
  if p < 0 then ofRatio false k (Nat.pow 10 p.natAbs) = finite false mantissa exponent
  else ofRatio false (k * Nat.pow 10 p.natAbs) 1 = finite false mantissa exponent

/-- The number of decimal digits before the point, for values of at least one, and
otherwise less the number of zeros after it. -/
def decimalMagnitude (num den : Nat) : Int :=
  if den ≤ num then ((Nat.toDigits 10 (num / den)).length : Int)
  else 1 - ((Nat.toDigits 10 ((den + num - 1) / num)).length : Int)

/-- The nearest grid point `k · 10 ^ p` that reads back, if one does. -/
def onGrid (mantissa : Nat) (exponent : Int) (p : Int) : Option Nat :=
  let (num, den) := ratio mantissa exponent
  let (n, d) := if p < 0 then (num * Nat.pow 10 p.natAbs, den) else (num, den * Nat.pow 10 p.natAbs)
  let below := n / d
  let near := roundDiv n d
  let far := if near = below then below + 1 else below
  if readsBack mantissa exponent near p then some near
  else if readsBack mantissa exponent far p then some far
  else none

/-- The first of `count` grids, from `10 ^ p` downwards, with a point that reads back. -/
def firstGrid (mantissa : Nat) (exponent : Int) : Nat → Int → Option (Nat × Int)
  | 0, _ => none
  | count + 1, p =>
    match onGrid mantissa exponent p with
    | some k => if k = 0 then firstGrid mantissa exponent count (p - 1) else some (k, p)
    | none => firstGrid mantissa exponent count (p - 1)

/-- Takes the zeros at the end of `k` into the power of ten. -/
def withoutTrailingZeros : Nat → Nat → Int → Nat × Int
  | 0, k, p => (k, p)
  | fuel + 1, k, p =>
    if k ≠ 0 ∧ k % 10 = 0 then withoutTrailingZeros fuel (k / 10) (p + 1) else (k, p)

/-- The digits and the power of ten of the shortest decimal that reads back as
`mantissa · 2 ^ exponent`. -/
def shortest (mantissa : Nat) (exponent : Int) : Nat × Int :=
  if mantissa = 0 then (0, 0)
  else
    let (num, den) := ratio mantissa exponent
    let top := decimalMagnitude num den
    match firstGrid mantissa exponent 20 top with
    | some (k, p) => withoutTrailingZeros 20 k p
    | none => (0, 0)

end Binary64

/-- How the decimal form of a number is laid out: how many digits may stand before
the point, how many zeros may follow it, and whether a positive exponent has a sign. -/
structure NumberLayout where
  digitsBefore : Int
  zerosAfter : Int
  plusSign : Bool
deriving Repr

namespace NumberLayout

/-- Digits and power of ten of a positive decimal, written out. -/
def write (layout : NumberLayout) (digits : Nat) (power : Int) : String :=
  let ds := Nat.toDigits 10 digits
  let count : Int := ds.length
  let point := count + power
  if 0 ≤ power ∧ point ≤ layout.digitsBefore then
    String.ofList (ds ++ List.replicate power.toNat '0' ++ ['.', '0'])
  else if 0 < point ∧ point ≤ layout.digitsBefore then
    String.ofList (ds.take point.toNat ++ '.' :: ds.drop point.toNat)
  else if -layout.zerosAfter ≤ point ∧ point ≤ 0 then
    String.ofList ('0' :: '.' :: List.replicate point.natAbs '0' ++ ds)
  else
    let mantissa := match ds with
      | [] => []
      | [d] => [d]
      | d :: rest => d :: '.' :: rest
    let e := point - 1
    let sign := if e < 0 then "-" else if layout.plusSign then "+" else ""
    String.ofList mantissa ++ "e" ++ sign ++ toString e.natAbs

end NumberLayout

namespace Binary64

/-- A value in decimal, under a layout. -/
def display (layout : NumberLayout) : Binary64 → String
  | infinite s => if s then "-inf" else "inf"
  | finite s m e =>
    let (digits, power) := shortest m e
    (if s then "-" else "") ++ (if m = 0 then "0.0" else layout.write digits power)

end Binary64

end Showcase
