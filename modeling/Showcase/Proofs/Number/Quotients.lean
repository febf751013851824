import Mathlib.Algebra.Order.Group.Nat
import Mathlib.Tactic.SplitIfs
import Showcase.Number.Binary64

namespace Showcase

/-!
# Rounded quotients

A count that fits a machine word is a finite value, and a finite value that is not zero gives
exactly one when divided by itself: the quotient fills the mantissa, so nothing is rounded.
-/

namespace Binary64

theorem roundDiv_mul_right {d : Nat} (h : 0 < d) (n : Nat) : roundDiv (d * n) d = n := by
  have htwice : 2 * (d * n % d) < d := by rwa [Nat.mul_mod_right]
  rw [roundDiv, Nat.mul_div_cancel_left n h, if_pos htwice]

theorem div_le_roundDiv (n d : Nat) : n / d ≤ roundDiv n d := by
  unfold roundDiv
  dsimp only
  split_ifs <;> omega

section OfRatio

variable {negative : Bool} {num den n d mantissa : Nat} {exponent : Int}

theorem ofRatio_eq (h : num ≠ 0) (hexponent : exponentFor num den = exponent)
    (hscaled : scaled num den exponent = (n, d)) (hmantissa : roundDiv n d = mantissa) :
    ofRatio negative num den =
      if mantissa = Nat.pow 2 precision then
        if maxExponent < exponent + 1 then infinite negative
        else finite negative (Nat.pow 2 (precision - 1)) (exponent + 1)
      else if maxExponent < exponent then infinite negative
      else finite negative mantissa exponent := by
  subst hexponent hmantissa
  rw [ofRatio, if_neg h]
  dsimp only
  rw [hscaled]
  dsimp only
  split_ifs <;> rfl

theorem exists_ofRatio (h : num ≠ 0) (hexponent : exponentFor num den = exponent)
    (hscaled : scaled num den exponent = (n, d)) (hmantissa : 0 < roundDiv n d)
    (hrange : exponent + 1 ≤ maxExponent) :
    ∃ mantissa exponent, ofRatio negative num den = finite negative mantissa exponent ∧
      0 < mantissa := by
  have hkept : ¬ maxExponent < exponent := by omega
  rw [ofRatio_eq h hexponent hscaled rfl, if_neg (Int.not_lt.mpr hrange), if_neg hkept]
  split_ifs
  · exact ⟨_, _, rfl, Nat.pow_pos (by decide)⟩
  · exact ⟨_, _, rfl, hmantissa⟩

end OfRatio

theorem exponentFor_self (n : Nat) : exponentFor n n = -52 := by
  have hscaled : scaled n n 0 = (n, n) := by
    rw [scaled, if_neg (by decide)]
    exact congrArg (n, ·) (Nat.mul_one n)
  rw [exponentFor, Int.sub_self, hscaled]
  simp only [Nat.le_refl, if_true]
  decide

theorem scaled_self (n : Nat) : scaled n n (-52) = (n * Nat.pow 2 52, n) := by
  have hsteps : (-52 : Int).natAbs = 52 := rfl
  rw [scaled, if_pos (by decide), hsteps]

/-- What is not zero is one when divided by itself. -/
theorem ofRatio_self (negative : Bool) {n : Nat} (h : 0 < n) :
    ofRatio negative n n = ofRatio negative 1 1 := by
  rw [ofRatio_eq h.ne' (exponentFor_self n) (scaled_self n) (roundDiv_mul_right h _)]
  cases negative <;> decide +kernel

theorem exponentFor_one {n : Nat} (h : n ≠ 0) : exponentFor n 1 = (n.log2 : Int) - 52 := by
  have hscaled : scaled n 1 (n.log2 : Int) = (n, 2 ^ n.log2) := by
    rw [scaled, if_neg (by omega), Int.natAbs_natCast, Nat.one_mul]
    rfl
  have hguess : (n.log2 : Int) - (Nat.log2 1 : Nat) = n.log2 := Int.sub_zero _
  rw [exponentFor, hguess]
  simp only [hscaled, Nat.log2_self_le h, if_true, precision, minExponent]
  omega

/-- A count is finite, and no zero unless nothing is counted. -/
theorem exists_ofNat {n : Nat} (hpos : 0 < n) (h : n < 2 ^ 64) :
    ∃ mantissa exponent, ofNat n = finite false mantissa exponent ∧ 0 < mantissa := by
  have hlog : n.log2 < 64 := (Nat.log2_lt hpos.ne').mpr h
  have hexponent := exponentFor_one hpos.ne'
  have hrange : (n.log2 : Int) - 52 + 1 ≤ maxExponent := by
    unfold maxExponent
    omega
  have hpow (k : Nat) : 0 < Nat.pow 2 k := Nat.pow_pos (by decide)
  by_cases hsmall : (n.log2 : Int) - 52 < 0
  · refine exists_ofRatio hpos.ne' hexponent (if_pos hsmall) ?_ hrange
    refine Nat.lt_of_lt_of_le ?_ (div_le_roundDiv _ _)
    rw [Nat.div_one]
    exact Nat.mul_pos hpos (hpow _)
  · refine exists_ofRatio hpos.ne' hexponent (if_neg hsmall) ?_ hrange
    have hle : 2 ^ ((n.log2 : Int) - 52).natAbs ≤ 2 ^ n.log2 :=
      Nat.pow_le_pow_right (by decide) (by omega)
    refine Nat.lt_of_lt_of_le ?_ (div_le_roundDiv _ _)
    rw [Nat.one_mul]
    exact Nat.div_pos (hle.trans (Nat.log2_self_le hpos.ne')) (hpow _)

theorem div_self (negative : Bool) {mantissa : Nat} (exponent : Int) (h : 0 < mantissa) :
    (finite negative mantissa exponent).div (finite negative mantissa exponent) =
      ofRatio false 1 1 := by
  have hpow (k : Nat) : 0 < Nat.pow 2 k := Nat.pow_pos (by decide)
  have hratio : 0 < (ratio mantissa exponent).1 ∧ 0 < (ratio mantissa exponent).2 := by
    unfold ratio
    split_ifs
    · exact ⟨h, hpow _⟩
    · exact ⟨Nat.mul_pos h (hpow _), Nat.one_pos⟩
  rw [div, if_neg h.ne']
  dsimp only
  rw [bne_self_eq_false, Nat.mul_comm (ratio mantissa exponent).2,
    ofRatio_self false (Nat.mul_pos hratio.1 hratio.2)]

end Binary64

end Showcase
