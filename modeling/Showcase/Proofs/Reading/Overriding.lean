import Showcase.Proofs.Reading.Literals
import Showcase.Reading.Extraction

namespace Showcase

open Script

/-!
# Members of one name

Where several members of an object have one name, the last of them that is plain and has a static
value is the one whose value is read.  When the object is run the last one of all counts, so the
two agree if and only if no other member of the name comes behind.
-/

namespace Binary64

/-- How a number is laid out as the name of a property. -/
def propertyLayout : NumberLayout := { digitsBefore := 21, zerosAfter := 5, plusSign := true }

def propertyName : Binary64 → String
  | infinite _ => "Infinity"
  | b =>
    let digits := (b.display propertyLayout).toList
    String.ofList (if ['.', '0'].isSuffixOf digits then digits.dropLast.dropLast else digits)

end Binary64

namespace Script

/-- The name of the property that a key defines.  A computed key has none before it is run, and of
a bigint the digits are not kept. -/
def Key.propertyName? : Key → Option String
  | .name text | .string text => some text
  | .number value => some value.propertyName
  | .bigint | .computed => none

example : [Key.number (.ofNat 320), .number (.ofDecimal false 15 (-1)),
    .number (.ofDecimal false 1 21), .number (.ofDecimal false 1 (-7))].map Key.propertyName? =
    [some "320", some "1.5", some "1e+21", some "1e-7"] := by decide +kernel

theorem Key.propertyName?_of_text? {key : Key} {name : String} (h : key.text? = some name) :
    key.propertyName? = some name := by
  cases key with
  | name text | string text => exact h
  | number value | bigint | computed => cases h

namespace Member

def name? : Member → Option String
  | .property _ key _ _ => key.propertyName?
  | .spread _ _ => none

/-- The static value that a plain member gives the name `key`. -/
def staticAt? (scope : Option Scope) (key : String) (m : Member) : Option Json :=
  m.plain?.bind fun (name, value) => if name = key then value.staticValue scope else none

theorem name?_of_plain? {m : Member} {name : String} {value : Expr}
    (h : m.plain? = some (name, value)) : m.name? = some name := by
  cases m with
  | spread span e => cases h
  | property span key kind initial =>
      have htext : key.text? = some name := by
        cases kind with
        | value | shorthand =>
            obtain ⟨text, htext, heq⟩ := Option.map_eq_some_iff.mp h
            cases heq
            exact htext
        | method | getter | setter => cases h
      exact Key.propertyName?_of_text? htext

theorem name?_of_staticAt? {scope : Option Scope} {key : String} {m : Member} {v : Json}
    (h : m.staticAt? scope key = some v) : m.name? = some key := by
  obtain ⟨⟨name, value⟩, hplain, hvalue⟩ := Option.bind_eq_some_iff.mp h
  dsimp only at hvalue
  split at hvalue
  · rename_i hname
    exact hname ▸ name?_of_plain? hplain
  · cases hvalue

end Member

end Script

/-! ## What is read -/

namespace Static

variable (scope : Option Scope) (key : String)

/-- One member puts its value over what was there, or nothing. -/
theorem membersWith_cons (m : Member) (rest : List Member) (acc : List (String × Json)) :
    ∃ next, membersWith (ofName scope) acc (m :: rest) = membersWith (ofName scope) next rest ∧
      Json.member? next key = (m.staticAt? scope key).or (Json.member? acc key) := by
  cases m with
  | spread span e => exact ⟨acc, rfl, rfl⟩
  | property span k kind value =>
      by_cases hkind : kind = .value ∨ kind = .shorthand
      · have hplain : (Member.property span k kind value).plain? =
            k.text?.map fun name => (name, value) := by
          rcases hkind with rfl | rfl <;> rfl
        rw [membersWith, if_pos hkind, Member.staticAt?, hplain]
        cases k.text? with
        | none => exact ⟨acc, rfl, rfl⟩
        | some name =>
            simp only [Option.map_some, Option.bind_some, Expr.staticValue]
            cases valueWith (ofName scope) value with
            | none => exact ⟨acc, rfl, by simp⟩
            | some v =>
                refine ⟨Json.insert name v acc, rfl, ?_⟩
                rw [Json.member?_insert]
                split <;> simp
      · have hplain : (Member.property span k kind value).plain? = none := by
          cases kind <;> simp_all [Member.plain?]
        rw [membersWith, if_neg hkind, Member.staticAt?, hplain]
        exact ⟨acc, rfl, rfl⟩

/-- The last member that gives a name a static value is the one that counts. -/
theorem member?_membersWith (members : List Member) (acc : List (String × Json)) :
    Json.member? (membersWith (ofName scope) acc members) key =
      (members.reverse.findSome? (·.staticAt? scope key)).or (Json.member? acc key) := by
  induction members generalizing acc with
  | nil => rfl
  | cons m rest ih =>
      obtain ⟨next, hstep, hnext⟩ := membersWith_cons scope key m rest acc
      rw [hstep, ih, hnext, List.reverse_cons, List.findSome?_append, Option.or_assoc]
      cases hm : m.staticAt? scope key <;> simp [hm]

end Static

theorem Script.exists_find?_reverse {named : Member → Option String} {members : List Member}
    {m : Member} {key : String} (hm : m ∈ members) (h : named m = some key) :
    ∃ found ∈ members, members.reverse.find? (named · = some key) = some found := by
  have hsome : (members.reverse.find? (named · = some key)).isSome = true :=
    List.find?_isSome.mpr ⟨m, List.mem_reverse.mpr hm, decide_eq_true h⟩
  obtain ⟨found, hfound⟩ := Option.isSome_iff_exists.mp hsome
  exact ⟨found, List.mem_reverse.mp (List.mem_of_find?_eq_some hfound), hfound⟩

namespace ObjectLiteral

variable (object : ObjectLiteral) (scope : Option Scope) (key : String)

/-- The last member of a name, which is the one that counts when the object is run. -/
def last? : Option Member := object.members.reverse.find? (·.name? = some key)

theorem staticAt?_of_last? {m : Member} {v : Json} (hlast : object.last? key = some m)
    (hm : m.staticAt? scope key = some v) :
    object.members.reverse.findSome? (·.staticAt? scope key) = some v := by
  obtain ⟨-, before, after, hmembers, hbefore⟩ := List.find?_eq_some_iff_append.mp hlast
  refine List.findSome?_eq_some_iff.mpr ⟨before, m, after, hmembers, hm, ?_⟩
  intro other hother
  have hname : ¬ other.name? = some key := by simpa using hbefore other hother
  exact Option.eq_none_iff_forall_ne_some.mpr fun w hw => hname (Member.name?_of_staticAt? hw)

theorem member?_eq_some_iff {v : Json} :
    object.members.reverse.findSome? (·.staticAt? scope key) = some v ↔
      ∃ before m after, object.members = before ++ m :: after ∧ m.staticAt? scope key = some v ∧
        ∀ other ∈ after, other.staticAt? scope key = none := by
  rw [List.findSome?_eq_some_iff]
  constructor
  · rintro ⟨after, m, before, hmembers, hm, hafter⟩
    refine ⟨before.reverse, m, after.reverse, ?_, hm, ?_⟩
    · simpa using congrArg List.reverse hmembers
    · intro other hother
      exact hafter other (List.mem_reverse.mp hother)
  · rintro ⟨before, m, after, hmembers, hm, hafter⟩
    refine ⟨after.reverse, m, before.reverse, ?_, hm, ?_⟩
    · simp [hmembers]
    · intro other hother
      exact hafter other (List.mem_reverse.mp hother)

/-- The value that is read for a name is that of the last member that gives it one.  It is the value
of the last member of the name unless that one has none while an earlier one has. -/
theorem staticValue_of_last (object : ObjectLiteral) (scope : Option Scope) :
    ∃ ms, object.staticValue scope = .object ms ∧ (ms.map Prod.fst).Pairwise (· < ·) ∧ ∀ key,
      (∀ v, Json.member? ms key = some v ↔
        ∃ before m after, object.members = before ++ m :: after ∧
          m.staticAt? scope key = some v ∧ ∀ other ∈ after, other.staticAt? scope key = none) ∧
      ((∀ v, Json.member? ms key = some v →
          ∃ m, object.last? key = some m ∧ m.staticAt? scope key = some v) ↔
        ∀ m, object.last? key = some m → m.staticAt? scope key = none →
          ∀ other ∈ object.members, other.staticAt? scope key = none) := by
  refine ⟨_, rfl, Static.membersWith_pairwise _ _ .nil, ?_⟩
  intro key
  have hread : Json.member? (Static.membersWith (Static.ofName scope) [] object.members) key =
      object.members.reverse.findSome? (·.staticAt? scope key) :=
    (Static.member?_membersWith scope key object.members []).trans Option.or_none
  rw [hread]
  refine ⟨fun v => object.member?_eq_some_iff scope key, ?_⟩
  constructor
  · intro hlast m hm hnone other hother
    by_contra hgives
    obtain ⟨v, hv⟩ := Option.ne_none_iff_exists'.mp
      (mt List.findSome?_eq_none_iff.mp fun h => hgives (h other (List.mem_reverse.mpr hother)))
    obtain ⟨found, hfound, hgiven⟩ := hlast v hv
    rw [hm] at hfound
    cases hfound
    rw [hnone] at hgiven
    cases hgiven
  · intro hlast v hv
    obtain ⟨before, m, after, hmembers, hm, -⟩ := (object.member?_eq_some_iff scope key).mp hv
    have hmem : m ∈ object.members := hmembers ▸ List.mem_append_right before List.mem_cons_self
    -- The member that gives `v` has the name, so there is a last one of the name.
    have hname : m.name? = some key := Member.name?_of_staticAt? hm
    obtain ⟨found, -, hfound⟩ := exists_find?_reverse hmem hname
    cases hgiven : found.staticAt? scope key with
    | none =>
        rw [hlast found hfound hgiven m hmem] at hm
        cases hm
    | some w =>
        rw [object.staticAt?_of_last? scope key hfound hgiven] at hv
        exact ⟨found, hfound, hgiven.trans hv⟩

namespace Overridden

/-- The second member of the name has to be run to know its value. -/
def source : Source :=
  ⟨"readme.js", .js, "module.exports = \x7b title: 'Old', title: title() \x7d;"⟩

def isRead : List Member → Bool
  | [.property _ (.name first) .value (.string _ _),
      .property _ (.name second) .value (.other _ _)] =>
    first == "title" && second == "title"
  | _ => false

theorem exists_of_isRead {members : List Member} (h : isRead members) :
    ∃ first second span span' text form, members =
      [.property first (.name "title") .value (.string span text),
        .property second (.name "title") .value (.other span' form)] := by
  unfold isRead at h
  split at h
  · obtain ⟨rfl, rfl⟩ : _ = _ ∧ _ = _ := by simpa using h
    exact ⟨_, _, _, _, _, _, rfl⟩
  · cases h

end Overridden

open Overridden in
theorem overridden_members_read :
    ¬ ∀ (source : Source) (object : ObjectLiteral) (scope : Scope) (ms : List (String × Json))
        (key : String) (v : Json),
      source.exported = .ok (object, scope) → (∀ m ∈ object.members, m.name?.isSome) →
        object.staticValue (some scope) = .object ms → Json.member? ms key = some v →
          ∃ m, object.last? key = some m ∧ m.staticAt? (some scope) key = some v := by
  intro hall
  have hread : (source.exported.toOption.map fun found => isRead found.1.members) = some true := by
    decide +kernel
  obtain ⟨⟨⟨whole, members⟩, scope⟩, hfound, hmembers⟩ := Option.map_eq_some_iff.mp hread
  obtain ⟨first, second, span, span', text, form, rfl⟩ := exists_of_isRead hmembers
  obtain ⟨m, hm, hgiven⟩ := hall source _ scope _ "title" (.string text)
    (eq_ok_of_toOption hfound) (by simp [Member.name?, Key.propertyName?]) rfl rfl
  cases hm
  cases hgiven

end ObjectLiteral

end Showcase
