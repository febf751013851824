namespace Showcase

/-! # Binary floating-point values

A script number is a binary64 value.  It is kept as sign, integer mantissa and
power of two, so that every operation on it is exact integer arithmetic followed
by one rounding to nearest, ties to even.
-/

/-- A binary64 value other than NaN.  A finite one is `± mantissa · 2 ^ exponent`. -/
inductive Binary64 where
  | finite (negative : Bool) (mantissa : Nat) (exponent : Int)
  | infinite (negative : Bool)
deriving DecidableEq, Repr, Inhabited

namespace Binary64

def precision : Nat := 53

/-- The exponent of the smallest positive value. -/
def minExponent : Int := -1074

/-- The exponent of the largest finite values. -/
def maxExponent : Int := 971

def zero : Binary64 := finite false 0 minExponent

/-- `num / den` rounded to the nearest natural number, a half to the even one. -/
def roundDiv (num den : Nat) : Nat :=
  let q := num / den
  let twice := 2 * (num % den)
  if twice < den then q else if den < twice then q + 1 else q + q % 2

/-- `num / den / 2 ^ e` as a fraction of natural numbers. -/
def scaled (num den : Nat) (e : Int) : Nat × Nat :=
  if e < 0 then (num * Nat.pow 2 e.natAbs, den) else (num, den * Nat.pow 2 e.natAbs)

/-- The exponent with which `num / den` fills the mantissa, as far as the range allows. -/
def exponentFor (num den : Nat) : Int :=
  let guess : Int := (Nat.log2 num : Int) - Nat.log2 den
  let (n, d) := scaled num den guess
  let top := if d ≤ n then guess else guess - 1
  max (top - (precision - 1)) minExponent

/-- The binary64 value nearest to `± num / den`. -/
def ofRatio (negative : Bool) (num den : Nat) : Binary64 :=
  if num = 0 then finite negative 0 minExponent
  else
    let e := exponentFor num den
    let (n, d) := scaled num den e
    let m := roundDiv n d
    let (m, e) := if m = Nat.pow 2 precision then (Nat.pow 2 (precision - 1), e + 1) else (m, e)
    if maxExponent < e then infinite negative else finite negative m e

/-- The value nearest to `± digits · 10 ^ exponent`.  Exponents so large or so small
that the result is infinite or zero whatever the digits are not worked out. -/
def ofDecimal (negative : Bool) (digits : Nat) (exponent : Int) : Binary64 :=
  if digits = 0 then finite negative 0 minExponent
  else
    let magnitude : Int := (Nat.log2 digits : Int) / 4 + exponent
    if 400 < magnitude then infinite negative
    else if (Nat.log2 digits : Int) / 3 + exponent < -400 then finite negative 0 minExponent
    else if exponent < 0 then ofRatio negative digits (Nat.pow 10 exponent.natAbs)
    else ofRatio negative (digits * Nat.pow 10 exponent.natAbs) 1

def ofNat (n : Nat) : Binary64 := ofRatio false n 1

def neg : Binary64 → Binary64
  | finite s m e => finite (!s) m e
  | infinite s => infinite (!s)

def ratio (mantissa : Nat) (exponent : Int) : Nat × Nat :=
  if exponent < 0 then (mantissa, Nat.pow 2 exponent.natAbs) else (mantissa * Nat.pow 2 exponent.natAbs, 1)

/-- The quotient of two magnitudes, rounded once. -/
def div : Binary64 → Binary64 → Binary64
  | finite s m e, finite t k f =>
    if k = 0 then infinite (s != t)
    else
      let (a, b) := ratio m e
      let (c, d) := ratio k f
      ofRatio (s != t) (a * d) (b * c)
  | infinite s, finite t _ _ => infinite (s != t)
  | finite s _ _, infinite t => finite (s != t) 0 minExponent
  | infinite s, infinite t => infinite (s != t)

/-- The product of two values, rounded once. -/
def mul : Binary64 → Binary64 → Binary64
  | finite s m e, finite t k f =>
    let (a, b) := ratio m e
    let (c, d) := ratio k f
    ofRatio (s != t) (a * c) (b * d)
  | finite s _ _, infinite t => infinite (s != t)
  | infinite s, finite t _ _ => infinite (s != t)
  | infinite s, infinite t => infinite (s != t)

/-- The sum of two magnitudes, rounded once. -/
def addMagnitudes : Binary64 → Binary64 → Binary64
  | finite _ m e, finite _ k f =>
    let (a, b) := ratio m e
    let (c, d) := ratio k f
    ofRatio false (a * d + c * b) (b * d)
  | _, _ => infinite false

/-- A finite magnitude in units of `10 ^ -places`, rounded to the nearest, a half to the
even neighbour. -/
def inPlaces (places : Nat) : Binary64 → Nat
  | finite _ m e =>
    let (a, b) := ratio m e
    roundDiv (a * Nat.pow 10 places) b
  | infinite _ => 0

/-- The integer that a finite value is, if it has no fraction. -/
def toInt? : Binary64 → Option Int
  | infinite _ => none
  | finite s m e =>
    let (a, b) := ratio m e
    if a % b = 0 then some (if s then -((a / b : Nat) : Int) else ((a / b : Nat) : Int)) else none

end Binary64

end Showcase
