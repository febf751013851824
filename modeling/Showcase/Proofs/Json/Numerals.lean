import Mathlib.Data.List.TakeWhile
import Mathlib.Tactic.IntervalCases
import Mathlib.Tactic.SplitIfs
import Showcase.Json.Reader

namespace Showcase

/-!
# Numbers among other characters

The reader of numbers stops where a text goes on with something that no number goes on with.  So
a number that is read from a text of its own is read from the same text inside a longer one.
-/

namespace Json.Reader

/-- A text that no number goes on with. -/
def Ends (rest : List Char) : Prop :=
  ∀ c ∈ rest.head?, c.isDigit = false ∧ c ≠ '.' ∧ c ≠ 'e' ∧ c ≠ 'E'

theorem Ends.nil : Ends [] := nofun

theorem Ends.cons {c : Char} (hdigit : c.isDigit = false) (hpoint : c ≠ '.') (hlower : c ≠ 'e')
    (hupper : c ≠ 'E') (rest : List Char) : Ends (c :: rest) := by
  rintro d ⟨⟩
  exact ⟨hdigit, hpoint, hlower, hupper⟩

/-- Whatever is read up to the end of a text is also read where the text goes on with something
else. -/
def Local (read : List Char → Step α) : Prop :=
  ∀ cs a, read cs = .ok (a, []) → ∀ rest, Ends rest → read (cs ++ rest) = .ok (a, rest)

theorem Ends.takeWhile_isDigit {rest : List Char} (h : Ends rest) :
    rest.takeWhile Char.isDigit = [] := by
  cases rest with
  | nil => rfl
  | cons c cs => exact List.takeWhile_cons_of_neg (by simp [(h c rfl).1])

theorem Ends.dropWhile_isDigit {rest : List Char} (h : Ends rest) :
    rest.dropWhile Char.isDigit = rest := by
  cases rest with
  | nil => rfl
  | cons c cs => exact List.dropWhile_cons_of_neg (by simp [(h c rfl).1])

theorem takeWhile_isDigit_append (cs : List Char) {rest : List Char} (h : Ends rest) :
    (cs ++ rest).takeWhile Char.isDigit = cs.takeWhile Char.isDigit := by
  induction cs with
  | nil => exact h.takeWhile_isDigit
  | cons c cs ih =>
      by_cases hc : c.isDigit = true
      · simp [hc, ih]
      · simp [hc]

theorem dropWhile_isDigit_append (cs : List Char) {rest : List Char} (h : Ends rest) :
    (cs ++ rest).dropWhile Char.isDigit = cs.dropWhile Char.isDigit ++ rest := by
  induction cs with
  | nil => exact h.dropWhile_isDigit
  | cons c cs ih =>
      by_cases hc : c.isDigit = true
      · simp [hc, ih]
      · simp [hc]

theorem left_eq_of_floating {negative : Bool} {digits : Nat} {exponent : Int} {cs left : List Char}
    {v : Json} (h : floating negative digits exponent cs = .ok (v, left)) : cs = left := by
  unfold floating at h
  split at h
  · cases h
  · exact (Prod.mk.inj (Except.ok.inj h)).2

theorem floating_local (negative : Bool) (digits : Nat) (exponent : Int) :
    Local (floating negative digits exponent) := by
  intro cs v h rest hrest
  unfold floating at h ⊢
  cases hvalue : Binary64.ofDecimal negative digits exponent with
  | infinite sign =>
      rw [hvalue] at h
      cases h
  | finite sign mantissa power =>
      rw [hvalue] at h
      obtain ⟨rfl, rfl⟩ := Prod.mk.inj (Except.ok.inj h)
      rfl

theorem exponentDigits_local (positive isZero : Bool) (start : Nat) :
    Local (exponentDigits positive isZero start) := by
  intro cs value h rest hrest
  induction cs generalizing start with
  | nil =>
      obtain ⟨rfl, -⟩ := Prod.mk.inj (Except.ok.inj h)
      cases rest with
      | nil => rfl
      | cons c cs =>
          have hdigit := (hrest c rfl).1
          simp [exponentDigits, hdigit]
  | cons c cs ih =>
      rw [exponentDigits] at h
      rw [List.cons_append, exponentDigits]
      by_cases hdigit : c.isDigit = true
      · rw [if_pos hdigit] at h ⊢
        dsimp only at h ⊢
        split at h
        · cases h
        · rename_i hsmall
          rw [if_neg hsmall]
          exact ih _ h
      · rw [if_neg hdigit] at h
        cases h

theorem unsignedExponent_local (negative positive : Bool) (digits scale : Nat) :
    Local (unsignedExponent negative positive digits scale) := by
  intro cs v h rest hrest
  cases cs with
  | nil => cases h
  | cons c cs =>
      unfold unsignedExponent at h
      rw [List.cons_append, unsignedExponent]
      by_cases hdigit : c.isDigit = true
      · simp only [hdigit, Bool.not_true, Bool.false_eq_true, if_false] at h ⊢
        cases hdigits : exponentDigits positive (digits == 0) 0 (c :: cs) with
        | error stop =>
            rw [hdigits] at h
            cases h
        | ok read =>
            obtain ⟨value, left⟩ := read
            rw [hdigits] at h
            obtain rfl : left = [] := by
              dsimp only at h
              exact left_eq_of_floating h
            have hall := exponentDigits_local positive (digits == 0) 0 (c :: cs) value hdigits rest
              hrest
            rw [List.cons_append] at hall
            rw [hall]
            exact floating_local negative digits _ [] v h rest hrest
      · simp only [hdigit, Bool.not_false, if_true] at h
        cases h

theorem exponent_local (negative : Bool) (digits scale : Nat) :
    Local (exponent negative digits scale) := by
  intro cs v h rest hrest
  have hunsigned (positive : Bool) := unsignedExponent_local negative positive digits scale
  unfold exponent at h
  split at h
  · exact hunsigned true _ v h rest hrest
  · exact hunsigned false _ v h rest hrest
  · rename_i hplus hminus
    -- No sign stands in front, and none does when the text goes on.
    have happend : exponent negative digits scale (cs ++ rest) =
        unsignedExponent negative true digits scale (cs ++ rest) := by
      cases cs with
      | nil => cases h
      | cons c cs =>
          rw [List.cons_append, exponent]
          · rintro more ⟨rfl, rfl⟩
            exact hplus cs rfl
          · rintro more ⟨rfl, rfl⟩
            exact hminus cs rfl
    rw [happend]
    exact hunsigned true cs v h rest hrest

theorem fraction_local (negative : Bool) (whole : Nat) : Local (fraction negative whole) := by
  intro cs v h rest hrest
  unfold fraction at h ⊢
  rw [takeWhile_isDigit_append cs hrest, dropWhile_isDigit_append cs hrest]
  dsimp only at h ⊢
  by_cases hdigits : (cs.takeWhile Char.isDigit).isEmpty = true
  · rw [if_pos hdigits] at h
    cases h
  · rw [if_neg hdigits] at h ⊢
    generalize cs.dropWhile Char.isDigit = left at h ⊢
    split at h
    · exact exponent_local negative _ _ _ v h rest hrest
    · exact exponent_local negative _ _ _ v h rest hrest
    · obtain rfl := left_eq_of_floating h
      rw [List.nil_append]
      split
      · exact absurd rfl (hrest 'e' rfl).2.2.1
      · exact absurd rfl (hrest 'E' rfl).2.2.2
      · exact floating_local negative _ _ [] v h rest hrest

theorem afterWhole_local (negative : Bool) (whole : Nat) : Local (afterWhole negative whole) := by
  intro cs v h rest hrest
  unfold afterWhole at h ⊢
  split at h
  · exact fraction_local negative whole _ v h rest hrest
  · exact exponent_local negative whole 0 _ v h rest hrest
  · exact exponent_local negative whole 0 _ v h rest hrest
  · obtain rfl : cs = [] := by
      split_ifs at h
      · exact left_eq_of_floating h
      · exact (Prod.mk.inj (Except.ok.inj h)).2
      · exact (Prod.mk.inj (Except.ok.inj h)).2
      · exact left_eq_of_floating h
    rw [List.nil_append]
    split
    · exact absurd rfl (hrest '.' rfl).2.1
    · exact absurd rfl (hrest 'e' rfl).2.2.1
    · exact absurd rfl (hrest 'E' rfl).2.2.2
    · split_ifs at h ⊢
      · exact floating_local true whole 0 [] v h rest hrest
      · obtain ⟨rfl, -⟩ := Prod.mk.inj (Except.ok.inj h)
        rfl
      · obtain ⟨rfl, -⟩ := Prod.mk.inj (Except.ok.inj h)
        rfl
      · exact floating_local false whole 0 [] v h rest hrest

theorem number_zero (negative : Bool) (cs : List Char) :
    number negative ('0' :: cs) =
      if cs.head?.any Char.isDigit then stopAt .badNumber cs else afterWhole negative 0 cs := rfl

theorem number_cons (negative : Bool) {c : Char} (hzero : c ≠ '0') (cs : List Char) :
    number negative (c :: cs) =
      if c.isDigit then
        afterWhole negative (digitsValue 0 ((c :: cs).takeWhile Char.isDigit))
          ((c :: cs).dropWhile Char.isDigit)
      else stopAt .badNumber (c :: cs) := by
  unfold number
  split
  · rename_i heq
    cases heq
  · rename_i heq
    exact absurd (List.cons.inj heq).1 hzero
  · rename_i heq
    obtain ⟨rfl, rfl⟩ := List.cons.inj heq
    rfl

theorem number_local (negative : Bool) : Local (number negative) := by
  intro cs v h rest hrest
  cases cs with
  | nil => cases h
  | cons c cs =>
      rw [List.cons_append]
      by_cases hzero : c = '0'
      · subst hzero
        rw [number_zero] at h ⊢
        by_cases hdigit : cs.head?.any Char.isDigit = true
        · rw [if_pos hdigit] at h
          cases h
        · rw [if_neg hdigit] at h
          have happend : ¬ (cs ++ rest).head?.any Char.isDigit = true := by
            cases cs with
            | nil =>
                cases rest with
                | nil => exact Bool.false_ne_true
                | cons c cs => simp [(hrest c rfl).1]
            | cons c cs => exact hdigit
          rw [if_neg happend]
          exact afterWhole_local negative 0 cs v h rest hrest
      · rw [number_cons negative hzero] at h ⊢
        by_cases hdigit : c.isDigit = true
        · rw [if_pos hdigit] at h ⊢
          rw [← List.cons_append, takeWhile_isDigit_append (c :: cs) hrest,
            dropWhile_isDigit_append (c :: cs) hrest]
          exact afterWhole_local negative _ _ v h rest hrest
        · rw [if_neg hdigit] at h
          cases h

/-! ## Values that are numbers -/

theorem skipSpace_append {cs : List Char} (h : skipSpace cs ≠ []) (rest : List Char) :
    skipSpace (cs ++ rest) = skipSpace cs ++ rest := by
  have hempty : ¬ (cs.dropWhile isSpace).isEmpty = true := by
    rw [List.isEmpty_iff]
    exact h
  rw [skipSpace, List.dropWhile_append, if_neg hempty]
  rfl

theorem valueWith_digit (put : Put) (inner : Option (List Char → Step Json)) {c : Char}
    (h : c.isDigit = true) (cs : List Char) :
    valueWith put inner (c :: cs) = number false (c :: cs) := by
  have hspace : isSpace c = false := by
    by_contra hspace
    simp only [isSpace, Bool.or_eq_true, decide_eq_true_eq, Bool.not_eq_false] at hspace
    rcases hspace with ((rfl | rfl) | rfl) | rfl <;> exact absurd h (by decide)
  have hskip : skipSpace (c :: cs) = c :: cs := List.dropWhile_cons_of_neg (by simp [hspace])
  unfold valueWith
  rw [hskip]
  split
  · rename_i heq
    cases heq
  all_goals
    rename_i heq
    obtain ⟨rfl, rfl⟩ := List.cons.inj heq
    first
      | exact absurd h (by decide)
      | exact if_pos h

theorem valueWith_minus (put : Put) (inner : Option (List Char → Step Json)) (cs : List Char) :
    valueWith put inner ('-' :: cs) = number true cs := rfl

theorem valueWith_skipSpace (put : Put) (inner : Option (List Char → Step Json))
    {cs cs' : List Char} (h : skipSpace cs = skipSpace cs') :
    valueWith put inner cs = valueWith put inner cs' := by
  unfold valueWith
  rw [h]

theorem eq_of_word {value v : Json} {letters cs left : List Char}
    (h : word value letters cs = .ok (v, left)) : v = value := by
  induction letters generalizing cs with
  | nil => exact (Prod.mk.inj (Except.ok.inj h)).1.symm
  | cons letter letters ih =>
      cases cs with
      | nil => cases h
      | cons c cs =>
          rw [word] at h
          split_ifs at h
          · exact ih h
          · cases h

/-- What is read as a number begins with a sign or a digit. -/
theorem exists_numeral {put : Put} {cs left : List Char} {n : JsonNumber}
    (h : valueWith put none cs = .ok (.number n, left)) :
    ∃ c more, skipSpace cs = c :: more ∧
      ((c = '-' ∧ number true more = .ok (.number n, left)) ∨
        (c.isDigit = true ∧ number false (c :: more) = .ok (.number n, left))) := by
  unfold valueWith at h
  split at h
  · cases h
  · cases eq_of_word h
  · cases eq_of_word h
  · cases eq_of_word h
  · rename_i more heq
    exact ⟨'-', more, heq, .inl ⟨rfl, h⟩⟩
  · split at h <;> cases h
  · cases h
  · cases h
  · rename_i c more _ _ _ _ _ _ _ heq
    split_ifs at h with hdigit
    · exact ⟨c, more, heq, .inr ⟨hdigit, h⟩⟩
    · cases h

/-- A number that is read from a text of its own is read wherever the text stands. -/
theorem valueWith_append {put put' : Put} {inner : Option (List Char → Step Json)} {cs : List Char}
    {n : JsonNumber} (h : valueWith put none cs = .ok (.number n, [])) {rest : List Char}
    (hrest : Ends rest) : valueWith put' inner (cs ++ rest) = .ok (.number n, rest) := by
  -- The first character decides how a value is read, and the longer text begins with it too.
  obtain ⟨c, more, hskip, hnumber⟩ := exists_numeral h
  have happend : skipSpace (cs ++ rest) = skipSpace (c :: (more ++ rest)) := by
    have hfirst : isSpace c = false := by
      have hhead := List.head?_dropWhile_not isSpace cs
      rw [← skipSpace, hskip] at hhead
      simpa using hhead
    rw [skipSpace_append (by simp [hskip]), hskip, List.cons_append]
    exact (List.dropWhile_cons_of_neg (by simp [hfirst])).symm
  rw [valueWith_skipSpace put' inner happend]
  rcases hnumber with ⟨rfl, hnumber⟩ | ⟨hdigit, hnumber⟩
  · rw [valueWith_minus]
    exact number_local true more _ hnumber rest hrest
  · rw [valueWith_digit put' inner hdigit, ← List.cons_append]
    exact number_local false (c :: more) _ hnumber rest hrest

end Json.Reader

/-! ## Numbers that are read from what is written of them -/

/-- A number that is read from what is written of it. -/
def JsonNumber.Legible (n : JsonNumber) : Prop :=
  Json.Reader.value Json.insert 0 (Json.writeNumber n).toList = .ok (.number n, [])

/-- Whether a number is read from what is written of it. -/
def JsonNumber.isLegible (n : JsonNumber) : Bool :=
  match Json.Reader.value Json.insert 0 (Json.writeNumber n).toList with
  | .ok (.number m, []) => m = n
  | _ => false

theorem JsonNumber.isLegible_iff (n : JsonNumber) : n.isLegible = true ↔ n.Legible := by
  unfold isLegible Legible
  split
  · rename_i m heq
    rw [heq]
    simp
  · rename_i hother
    constructor
    · exact nofun
    · intro h
      exact absurd h (hother n)

instance (n : JsonNumber) : Decidable n.Legible := decidable_of_iff _ n.isLegible_iff

namespace Json.Reader

theorem digitsValue_toDigits (n : Nat) : digitsValue 0 (Nat.toDigits 10 n) = n := by
  have hvalue : digitsValue 0 (Nat.toDigits 10 n) = Nat.ofDigitChars 10 (Nat.toDigits 10 n) 0 := by
    unfold digitsValue Nat.ofDigitChars digitValue
    congr 1
    funext value c
    rw [Nat.mul_comm]
  rw [hvalue, Nat.ofDigitChars_toDigits (by decide) (by decide)]

/-- A positive number does not begin with a zero. -/
theorem exists_toDigits {n : Nat} (h : 0 < n) : ∃ c cs, Nat.toDigits 10 n = c :: cs ∧ c ≠ '0' := by
  induction n using Nat.strongRecOn with
  | ind n ih =>
      by_cases hsmall : n < 10
      · refine ⟨n.digitChar, [], Nat.toDigits_of_lt_base hsmall, ?_⟩
        interval_cases n <;> decide
      · have hlarge : 10 ≤ n := by omega
        obtain ⟨c, cs, hdigits, hzero⟩ := ih (n / 10) (by omega) (by omega)
        refine ⟨c, cs ++ [(n % 10).digitChar], ?_, hzero⟩
        rw [Nat.toDigits_of_base_le (by decide) hlarge, hdigits, List.cons_append]

end Json.Reader

theorem JsonNumber.legible_natCast {n : Nat} (h : n ≤ Json.Reader.largestWhole) :
    (JsonNumber.int n).Legible := by
  have htext : (Json.writeNumber (.int n)).toList = Nat.toDigits 10 n := by
    have hrepr : Json.writeNumber (.int n) = n.repr := rfl
    rw [hrepr, Nat.repr_eq_ofList_toDigits, String.toList_ofList]
  have hdigits : ∀ c ∈ Nat.toDigits 10 n, c.isDigit = true := fun c hc =>
    Nat.isDigit_of_mem_toDigits (by decide) (by decide) hc
  unfold JsonNumber.Legible
  rw [htext]
  by_cases hpositive : 0 < n
  · obtain ⟨c, cs, hcons, hzero⟩ := Json.Reader.exists_toDigits hpositive
    have htake : (Nat.toDigits 10 n).takeWhile Char.isDigit = Nat.toDigits 10 n :=
      List.takeWhile_eq_self_iff.mpr hdigits
    have hdrop : (Nat.toDigits 10 n).dropWhile Char.isDigit = [] :=
      List.dropWhile_eq_nil_iff.mpr hdigits
    have hvalue := Json.Reader.digitsValue_toDigits n
    have hfirst : c.isDigit = true := hdigits c (by simp [hcons])
    rw [hcons] at htake hdrop hvalue ⊢
    rw [Json.Reader.value, Json.Reader.valueWith_digit _ _ hfirst, Json.Reader.number_cons _ hzero,
      if_pos hfirst, htake, hdrop, hvalue]
    exact if_pos h
  · obtain rfl : n = 0 := by omega
    rfl

end Showcase
