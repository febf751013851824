import Mathlib.Algebra.Field.Rat
import Mathlib.Data.Nat.Cast.Field
import Showcase.Reading.Static

namespace Showcase

open Script

/-!
# Literals of JSON values

A JSON value is written as a literal: texts and keys as strings, a negative number as a
negation, and parentheses wherever one likes.  Its static value is the value that was
written, whatever names the scope binds.
-/

/-! ## Numbers -/

def Binary64.value? : Binary64 → Option ℚ
  | infinite _ => none
  | finite negative mantissa exponent =>
    some ((if negative then -1 else 1) * (mantissa * 2 ^ exponent))

def JsonNumber.value? : JsonNumber → Option ℚ
  | int n => some n
  | float b => b.value?

namespace Binary64

theorem cast_ratio_ne_zero (mantissa : Nat) (exponent : Int) :
    ((ratio mantissa exponent).2 : ℚ) ≠ 0 := by
  unfold ratio
  split <;> simp

theorem cast_ratio (mantissa : Nat) (exponent : Int) :
    ((ratio mantissa exponent).1 : ℚ) / (ratio mantissa exponent).2 =
      mantissa * 2 ^ exponent := by
  unfold ratio
  split
  · rename_i hneg
    have hexponent : exponent = -(exponent.natAbs : Int) := by omega
    generalize exponent.natAbs = k at hexponent ⊢
    subst hexponent
    simp [zpow_neg, div_eq_mul_inv]
  · rename_i hneg
    have hexponent : exponent = (exponent.natAbs : Int) := by omega
    generalize exponent.natAbs = k at hexponent ⊢
    subst hexponent
    simp

/-- The integer that a value is has the same value. -/
theorem value?_of_toInt? {b : Binary64} {n : Int} (h : b.toInt? = some n) :
    b.value? = some (n : ℚ) := by
  cases b with
  | infinite negative => cases h
  | finite negative mantissa exponent =>
      unfold toInt? at h
      dsimp only at h
      split at h
      · rename_i hmod
        have hdvd := Nat.dvd_of_mod_eq_zero hmod
        have hquotient := Nat.cast_div (K := ℚ) hdvd (cast_ratio_ne_zero mantissa exponent)
        rw [cast_ratio] at hquotient
        obtain rfl := Option.some.inj h
        cases negative with
        | false =>
            simp only [value?, Bool.false_eq_true, if_false, one_mul, Int.cast_natCast, hquotient]
        | true =>
            simp only [value?, if_true, neg_one_mul, Int.cast_neg, Int.cast_natCast, hquotient]
      · cases h

theorem value?_neg {b : Binary64} {q : ℚ} (h : b.value? = some q) : b.neg.value? = some (-q) := by
  cases b with
  | infinite negative => cases h
  | finite negative mantissa exponent =>
      obtain rfl := Option.some.inj h
      cases negative <;> simp [neg, value?]

end Binary64

/-- A finite number is read as a number of the same value. -/
theorem Static.exists_number {b : Binary64} {q : ℚ} (h : b.value? = some q) :
    ∃ n : JsonNumber, number b = some (.number n) ∧ n.value? = some q := by
  cases b with
  | infinite negative => cases h
  | finite negative mantissa exponent =>
      unfold number
      dsimp only
      cases hint : (Binary64.finite negative mantissa exponent).toInt? with
      | none => exact ⟨_, rfl, h⟩
      | some n =>
          dsimp only
          split
          · have hvalue := Binary64.value?_of_toInt? hint
            exact ⟨_, rfl, hvalue.symm.trans h⟩
          · exact ⟨_, rfl, h⟩

theorem Static.eq_number_of_number {b : Binary64} {v : Json} (h : number b = some v) :
    ∃ n, v = .number n := by
  unfold number at h
  split at h
  · cases h
  · split at h
    · split at h <;> cases h <;> exact ⟨_, rfl⟩
    · cases h
      exact ⟨_, rfl⟩

/-! ## Values -/

/-- Two values that differ at most in how their numbers and their objects are kept: an object
with distinct names is a finite map. -/
inductive Json.Same : Json → Json → Prop
  | null : Same .null .null
  | bool (b : Bool) : Same (.bool b) (.bool b)
  | number {n n' : JsonNumber} {q : ℚ} (h : n.value? = some q) (h' : n'.value? = some q) :
      Same (.number n) (.number n')
  | string (s : String) : Same (.string s) (.string s)
  | array {items items' : List Json} (h : List.Forall₂ Same items items') :
      Same (.array items) (.array items')
  | object {members members' : List (String × Json)} (distinct : (members.map Prod.fst).Nodup)
      (distinct' : (members'.map Prod.fst).Nodup)
      (h : ∀ key, Option.Rel Same (member? members key) (member? members' key)) :
      Same (.object members) (.object members')

namespace Script

mutual

/-- An expression that writes a JSON value as a literal. -/
inductive Expr.Writes : Expr → Json → Prop
  | null (span : Span) : Expr.Writes (.null span) .null
  | bool (span : Span) (b : Bool) : Expr.Writes (.boolean span b) (.bool b)
  | string (span : Span) (s : String) : Expr.Writes (.string span s) (.string s)
  | number (span : Span) {b : Binary64} {n : JsonNumber} {q : ℚ} (hb : b.value? = some q)
      (hn : n.value? = some q) : Expr.Writes (.number span b) (.number n)
  | negative (span : Span) {operand : Expr} {inner : Span} {b : Binary64} {n : JsonNumber} {q : ℚ}
      (hoperand : operand.peel = .number inner b) (hb : b.value? = some q)
      (hn : n.value? = some (-q)) : Expr.Writes (.negation span operand) (.number n)
  | array (span : Span) {elements : List Element} {items : List Json}
      (h : ElementsWrite elements items) : Expr.Writes (.array span elements) (.array items)
  | object (span : Span) {members : List Member} {ms : List (String × Json)}
      (h : MembersWrite members ms) (distinct : (ms.map Prod.fst).Nodup) :
      Expr.Writes (.object span members) (.object ms)
  | wrapped (span : Span) (w : Wrapper) {inner : Expr} {v : Json} (h : inner.Writes v) :
      Expr.Writes (.wrapped span w inner) v

inductive ElementsWrite : List Element → List Json → Prop
  | nil : ElementsWrite [] []
  | cons {e : Expr} {v : Json} {rest : List Element} {items : List Json} (h : e.Writes v)
      (hrest : ElementsWrite rest items) : ElementsWrite (.item e :: rest) (v :: items)

inductive MembersWrite : List Member → List (String × Json) → Prop
  | nil : MembersWrite [] []
  | cons (span : Span) (key : String) {e : Expr} {v : Json} {rest : List Member}
      {ms : List (String × Json)} (h : e.Writes v) (hrest : MembersWrite rest ms) :
      MembersWrite (.property span (.string key) .value e :: rest) ((key, v) :: ms)

end

end Script

/-! ## A literal for every value -/

namespace JsonNumber

/-- The number without its sign, as a literal gives it. -/
def magnitude : JsonNumber → Binary64
  | int n => .ofNat n.natAbs
  | float (.finite _ mantissa exponent) => .finite false mantissa exponent
  | float (.infinite _) => .infinite false

def isNegative : JsonNumber → Bool
  | int n => n < 0
  | float (.finite negative _ _) => negative
  | float (.infinite negative) => negative

def literal (n : JsonNumber) : Expr :=
  if n.isNegative then .negation ⟨0, 0⟩ (.number ⟨0, 0⟩ n.magnitude)
  else .number ⟨0, 0⟩ n.magnitude

/-- A number whose magnitude is a binary64 value. -/
def Exact (n : JsonNumber) : Prop :=
  ∃ q, n.magnitude.value? = some q ∧ n.value? = some (if n.isNegative then -q else q)

theorem exact_finite (negative : Bool) (mantissa : Nat) (exponent : Int) :
    (float (.finite negative mantissa exponent)).Exact := by
  refine ⟨mantissa * 2 ^ exponent, ?_, ?_⟩
  · simp [magnitude, Binary64.value?]
  · cases negative <;> simp [isNegative, value?, Binary64.value?]

theorem literal_writes {n : JsonNumber} (h : n.Exact) : n.literal.Writes (.number n) := by
  obtain ⟨q, hmagnitude, hvalue⟩ := h
  unfold literal
  cases hsign : n.isNegative with
  | false =>
      rw [hsign] at hvalue
      exact .number _ hmagnitude hvalue
  | true =>
      rw [hsign] at hvalue
      exact .negative _ rfl hmagnitude hvalue

end JsonNumber

namespace Json

/-- A value that has a literal: no name stands twice in an object, and the numbers are ones
that a script can write. -/
inductive Plain : Json → Prop
  | null : Plain .null
  | bool (b : Bool) : Plain (.bool b)
  | number {n : JsonNumber} (h : n.Exact) : Plain (.number n)
  | string (s : String) : Plain (.string s)
  | array {items : List Json} (h : ∀ v ∈ items, Plain v) : Plain (.array items)
  | object {members : List (String × Json)} (distinct : (members.map Prod.fst).Nodup)
      (h : ∀ m ∈ members, Plain m.2) : Plain (.object members)

mutual

def literal : Json → Expr
  | null => .null ⟨0, 0⟩
  | bool b => .boolean ⟨0, 0⟩ b
  | number n => n.literal
  | string s => .string ⟨0, 0⟩ s
  | array items => .array ⟨0, 0⟩ (literalElements items)
  | object members => .object ⟨0, 0⟩ (literalMembers members)

def literalElements : List Json → List Element
  | [] => []
  | v :: rest => .item v.literal :: literalElements rest

def literalMembers : List (String × Json) → List Member
  | [] => []
  | (key, v) :: rest =>
    .property ⟨0, 0⟩ (.string key) .value v.literal :: literalMembers rest

end

mutual

theorem literal_writes (v : Json) (h : v.Plain) : v.literal.Writes v := by
  cases v with
  | null => exact .null _
  | bool b => exact .bool _ b
  | number n =>
      cases h with
      | number h => exact JsonNumber.literal_writes h
  | string s => exact .string _ s
  | array items =>
      cases h with
      | array h => exact .array _ (literalElements_write items h)
  | object members =>
      cases h with
      | object distinct h => exact .object _ (literalMembers_write members h) distinct

theorem literalElements_write (items : List Json) (h : ∀ v ∈ items, v.Plain) :
    ElementsWrite (literalElements items) items := by
  cases items with
  | nil => exact .nil
  | cons v rest =>
      have hv := literal_writes v (h v List.mem_cons_self)
      have hrest := literalElements_write rest fun w hw => h w (List.mem_cons_of_mem v hw)
      exact .cons hv hrest

theorem literalMembers_write (members : List (String × Json)) (h : ∀ m ∈ members, m.2.Plain) :
    MembersWrite (literalMembers members) members := by
  cases members with
  | nil => exact .nil
  | cons m rest =>
      obtain ⟨key, v⟩ := m
      have hv := literal_writes v (h (key, v) List.mem_cons_self)
      have hrest := literalMembers_write rest fun w hw => h w (List.mem_cons_of_mem _ hw)
      exact .cons _ key hv hrest

end

end Json

/-! ## Members -/

namespace Json

theorem member?_cons (key other : String) (v : Json) (members : List (String × Json)) :
    member? ((key, v) :: members) other =
      if key = other then some v else member? members other := by
  unfold member?
  rw [List.find?_cons]
  by_cases hkey : key = other <;> simp [hkey]

/-- The member that is put in is there, and the others are as before. -/
theorem member?_insert (key other : String) (v : Json) (members : List (String × Json)) :
    member? (insert key v members) other =
      if key = other then some v else member? members other := by
  induction members with
  | nil => exact member?_cons key other v []
  | cons first rest ih =>
      obtain ⟨k, old⟩ := first
      rw [insert]
      split
      · exact member?_cons key other v _
      split
      · rename_i hk
        subst hk
        simp only [member?_cons]
        split <;> rfl
      · rename_i hk
        simp only [member?_cons, ih]
        by_cases hother : key = other
        · subst hother
          simp [Ne.symm hk]
        · simp [hother]

theorem mem_keys_insert {key other : String} {v : Json} {members : List (String × Json)}
    (h : other ∈ (insert key v members).map Prod.fst) :
    other = key ∨ other ∈ members.map Prod.fst := by
  induction members with
  | nil => exact .inl (List.mem_singleton.mp h)
  | cons first rest ih =>
      obtain ⟨k, old⟩ := first
      rw [insert] at h
      split at h
      · exact List.mem_cons.mp h
      split at h
      · exact (List.mem_cons.mp h).imp_right (List.mem_cons_of_mem k)
      · rcases List.mem_cons.mp h with rfl | hrest
        · exact .inr List.mem_cons_self
        · exact (ih hrest).imp_right (List.mem_cons_of_mem k)

/-- Members that are put in one by one stay in the order of their names. -/
theorem pairwise_insert (key : String) (v : Json) {members : List (String × Json)}
    (h : (members.map Prod.fst).Pairwise (· < ·)) :
    ((insert key v members).map Prod.fst).Pairwise (· < ·) := by
  induction members with
  | nil => exact List.pairwise_singleton _ _
  | cons first rest ih =>
      obtain ⟨k, old⟩ := first
      rw [List.map_cons, List.pairwise_cons] at h
      obtain ⟨hfirst, hrest⟩ := h
      rw [insert]
      split
      · rename_i hbefore
        have hkept := List.pairwise_cons.mpr ⟨hfirst, hrest⟩
        refine List.pairwise_cons.mpr ⟨fun other hother => ?_, hkept⟩
        rcases List.mem_cons.mp hother with rfl | hother
        · exact hbefore
        · exact String.lt_trans hbefore (hfirst other hother)
      split
      · rename_i hkey
        subst hkey
        exact List.pairwise_cons.mpr ⟨hfirst, hrest⟩
      · rename_i hnotBefore hne
        refine List.pairwise_cons.mpr ⟨fun other hother => ?_, ih hrest⟩
        rcases mem_keys_insert hother with rfl | hother
        · have hle : k ≤ other := String.not_lt.mp hnotBefore
          exact String.not_le.mp fun hge => hne (String.le_antisymm hge hle)
        · exact hfirst other hother

theorem member?_eq_none {key : String} {members : List (String × Json)}
    (h : key ∉ members.map Prod.fst) : member? members key = none := by
  induction members with
  | nil => rfl
  | cons first rest ih =>
      rw [List.map_cons, List.mem_cons, not_or] at h
      obtain ⟨hkey, hrest⟩ := h
      rw [member?_cons, if_neg (Ne.symm hkey)]
      exact ih hrest

end Json

/-! ## Reading what is written -/

namespace Static

/-- Members that are put over those that are there before: each has its value afterwards, and
the others are as they were. -/
def Overlays (members before after : List (String × Json)) : Prop :=
  ∀ key, match Json.member? members key with
    | some v => ∃ w, Json.member? after key = some w ∧ w.Same v
    | none => Json.member? after key = Json.member? before key

theorem Overlays.cons {name : String} {v w : Json} {members before after : List (String × Json)}
    (hfresh : name ∉ members.map Prod.fst) (hsame : w.Same v)
    (h : Overlays members (Json.insert name w before) after) :
    Overlays ((name, v) :: members) before after := by
  intro key
  have hkey := h key
  rw [Json.member?_insert] at hkey
  rw [Json.member?_cons]
  by_cases hname : name = key
  · -- No later member has the name, so what was put in stays.
    subst hname
    rw [Json.member?_eq_none hfresh, if_pos rfl] at hkey
    rw [if_pos rfl]
    exact ⟨w, hkey, hsame⟩
  · rw [if_neg hname] at hkey ⊢
    exact hkey

theorem Overlays.same {members after : List (String × Json)} (h : Overlays members [] after)
    (hafter : (after.map Prod.fst).Nodup) (hmembers : (members.map Prod.fst).Nodup) :
    (Json.object after).Same (.object members) := by
  refine .object hafter hmembers fun key => ?_
  have hkey := h key
  cases hmember : Json.member? members key with
  | none =>
      rw [hmember] at hkey
      rw [hkey]
      exact .none
  | some v =>
      rw [hmember] at hkey
      obtain ⟨w, hw, hsame⟩ := hkey
      rw [hw]
      exact .some hsame

variable (f : String → Option Json)

/-- The members of a value that is read have a name each, in ascending order. -/
theorem membersWith_pairwise (members : List Member) {acc : List (String × Json)}
    (h : (acc.map Prod.fst).Pairwise (· < ·)) :
    ((membersWith f acc members).map Prod.fst).Pairwise (· < ·) := by
  induction members generalizing acc with
  | nil => exact h
  | cons m rest ih =>
      cases m with
      | spread span e => exact ih h
      | property span key kind value =>
          rw [membersWith]
          split
          · split
            · exact ih (Json.pairwise_insert _ _ h)
            · exact ih h
          · exact ih h

mutual

/-- Names have no part in reading a literal. -/
theorem valueWith_of_writes (e : Expr) {v : Json} (h : e.Writes v) :
    ∃ w, valueWith f e = some w ∧ w.Same v := by
  cases e with
  | wrapped span w inner =>
      cases h with
      | wrapped _ _ h =>
          rw [valueWith]
          exact valueWith_of_writes inner h
  | string span s =>
      cases h
      exact ⟨.string s, rfl, .string s⟩
  | boolean span b =>
      cases h
      exact ⟨.bool b, rfl, .bool b⟩
  | null span =>
      cases h
      exact ⟨.null, rfl, .null⟩
  | number span b =>
      cases h with
      | number _ hb hn =>
          obtain ⟨n, hnumber, hvalue⟩ := exists_number hb
          rw [valueWith]
          exact ⟨_, hnumber, .number hvalue hn⟩
  | negation span operand =>
      cases h with
      | negative _ hoperand hb hn =>
          obtain ⟨n, hnumber, hvalue⟩ := exists_number (Binary64.value?_neg hb)
          simp only [valueWith, hoperand]
          exact ⟨_, hnumber, .number hvalue hn⟩
  | array span elements =>
      cases h with
      | array _ h =>
          rw [valueWith]
          exact ⟨_, rfl, .array (itemsWith_of_writes elements h)⟩
  | object span members =>
      cases h with
      | object _ h distinct =>
          rw [valueWith]
          have hoverlays := membersWith_of_writes members h distinct []
          have hempty : (([] : List (String × Json)).map Prod.fst).Pairwise (· < ·) := .nil
          have hkept := (membersWith_pairwise f members hempty).imp String.ne_of_lt
          exact ⟨_, rfl, hoverlays.same hkept distinct⟩
  | _ => cases h

theorem itemsWith_of_writes (elements : List Element) {items : List Json}
    (h : ElementsWrite elements items) :
    List.Forall₂ Json.Same (itemsWith f elements) items := by
  cases elements with
  | nil =>
      cases h
      exact .nil
  | cons element rest =>
      cases element with
      | item e =>
          cases h with
          | cons h hrest =>
              obtain ⟨w, hw, hsame⟩ := valueWith_of_writes e h
              rw [itemsWith, hw]
              exact .cons hsame (itemsWith_of_writes rest hrest)
      | _ => cases h

theorem membersWith_of_writes (members : List Member) {ms : List (String × Json)}
    (h : MembersWrite members ms) (distinct : (ms.map Prod.fst).Nodup)
    (acc : List (String × Json)) : Overlays ms acc (membersWith f acc members) := by
  cases members with
  | nil =>
      cases h
      exact fun key => rfl
  | cons m rest =>
      cases m with
      | property span key kind value =>
          cases h with
          | cons _ name h hrest =>
              obtain ⟨w, hw, hsame⟩ := valueWith_of_writes value h
              rw [List.map_cons, List.nodup_cons] at distinct
              obtain ⟨hfresh, distinct⟩ := distinct
              have hoverlays :=
                membersWith_of_writes rest hrest distinct (Json.insert name w acc)
              simp only [membersWith, Key.text?, hw]
              exact hoverlays.cons hfresh hsame
      | _ => cases h

end

end Static

/-- A plain value has a literal, and whatever literal a value is written as, it is read as that
value, with and without a scope. -/
theorem Json.staticValue_literal (v : Json) :
    (v.Plain → v.literal.Writes v) ∧
      ∀ e : Expr, e.Writes v → ∀ scope : Option Scope,
        ∃ w, e.staticValue scope = some w ∧ w.Same v := by
  constructor
  · exact literal_writes v
  · intro e h scope
    exact Static.valueWith_of_writes (Static.ofName scope) e h

namespace Json

def special : Json :=
  .object [("component", .null),
    ("", .array [.number (.int 2), .number (.float (.finite true 5 (-1)))]),
    ("__proto__", .object [])]

theorem special_plain : special.Plain := by
  have htwo : (JsonNumber.int 2).Exact := ⟨(2 : Int), Binary64.value?_of_toInt? (by decide), rfl⟩
  have hhalves : (JsonNumber.float (.finite true 5 (-1))).Exact := JsonNumber.exact_finite true 5 _
  refine .object (by decide) ?_
  simp only [List.forall_mem_cons, List.not_mem_nil, false_imp_iff, implies_true, and_true]
  refine ⟨.null, .array ?_, .object .nil fun _ h => nomatch h⟩
  simp only [List.forall_mem_cons, List.not_mem_nil, false_imp_iff, implies_true, and_true]
  exact ⟨.number htwo, .number hhalves⟩

theorem staticValue_literal_special :
    special.Plain ∧ ∀ scope : Option Scope, ∃ w,
      (Expr.wrapped ⟨0, 0⟩ .parentheses special.literal).staticValue scope = some w ∧
        w.Same special := by
  obtain ⟨hliteral, hread⟩ := staticValue_literal special
  have hwrites := hliteral special_plain
  exact ⟨special_plain, hread _ (.wrapped _ .parentheses hwrites)⟩

end Json

end Showcase
