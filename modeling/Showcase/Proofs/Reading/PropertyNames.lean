import Showcase.Proofs.Reading.Overriding

namespace Showcase

open Script

/-!
# Names of properties at every depth

An expression of nothing but literals is read as a value, and along every path the value has an
object where the literal has one.  The names of that object are those whose keys are written as
names or strings.  A number for a key names a property when the literal is run, and none of the
value that is read; a number that is too large to be finite is no value either.
-/

/-- A step from a value to one inside it. -/
inductive Json.Step where
  | item (i : Nat)
  | member (key : String)

def Json.next? : Json.Step → Json → Option Json
  | .item i, .array items => items[i]?
  | .member key, .object ms => member? ms key
  | _, _ => none

def Json.at? : List Json.Step → Json → Option Json
  | [], v => some v
  | step :: path, v => (v.next? step).bind (at? path)

namespace Script

namespace Member

def value? : Member → Option Expr
  | .property _ _ _ value => some value
  | .spread _ _ => none

/-- A key that is no computed one and names no prototype. -/
def isWritten : Member → Bool
  | .property _ key _ _ => key != .computed && key.propertyName? != some "__proto__"
  | .spread _ _ => false

/-- The name under which a plain member with a literal for its value is read. -/
def kept? : Member → Option String
  | .property _ _ _ (.number _ (.infinite _)) => none
  | .property _ key _ _ => key.text?
  | .spread _ _ => none

theorem name?_eq_kept? {m : Member} (h : m.kept?.isSome = true) : m.name? = m.kept? := by
  obtain ⟨name, hname⟩ := Option.isSome_iff_exists.mp h
  rw [hname]
  unfold kept? at hname
  split at hname
  · cases hname
  · exact Key.propertyName?_of_text? hname
  · cases hname

end Member

mutual

/-- Expressions of nothing but literals, whose members are plain and pass a test. -/
def Expr.isData (passes : Member → Bool) : Expr → Bool
  | .string _ _ | .boolean _ _ | .null _ | .number _ _ => true
  | .array _ elements => elementsAreData passes elements
  | .object _ members => membersAreData passes members
  | _ => false

def elementsAreData (passes : Member → Bool) : List Element → Bool
  | [] => true
  | .item e :: rest => e.isData passes && elementsAreData passes rest
  | _ :: _ => false

def membersAreData (passes : Member → Bool) : List Member → Bool
  | [] => true
  | .property span key .value value :: rest =>
    passes (.property span key .value value) && value.isData passes && membersAreData passes rest
  | _ :: _ => false

end

/-- Of the members that define a property, as `named` tells, the last one counts. -/
def Expr.next? (named : Member → Option String) : Json.Step → Expr → Option Expr
  | .item i, .array _ elements => elements[i]?.bind Element.expression?
  | .member key, .object _ members =>
    (members.reverse.find? (named · = some key)).bind Member.value?
  | _, _ => none

def Expr.at? (named : Member → Option String) : List Json.Step → Expr → Option Expr
  | [], e => some e
  | step :: path, e => (e.next? named step).bind (at? named path)

end Script

/-- A value has objects where a literal has them, and they have the names of its members. -/
structure Json.HasNames (named : Member → Option String) (v : Json) (e : Expr) : Prop where
  names : ∀ path span members, e.at? named path = some (.object span members) →
    ∃ ms, v.at? path = some (.object ms) ∧
      ∀ key, key ∈ ms.map Prod.fst ↔ key ∈ members.filterMap named
  objects : ∀ path ms, v.at? path = some (.object ms) →
    ∃ span members, e.at? named path = some (.object span members)

/-! ## Literals -/

namespace Script

variable {passes : Member → Bool}

theorem exists_item {elements : List Element} (h : elementsAreData passes elements = true) {i : Nat}
    {element : Element} (hi : elements[i]? = some element) :
    ∃ e, element = .item e ∧ e.isData passes = true := by
  induction elements generalizing i with
  | nil => cases hi
  | cons first rest ih =>
      cases first with
      | item e =>
          obtain ⟨he, hrest⟩ := Bool.and_eq_true_iff.mp h
          cases i with
          | zero =>
              cases hi
              exact ⟨e, rfl, he⟩
          | succ i => exact ih hrest hi
      | spread span e | hole span => cases h

theorem exists_property {members : List Member} (h : membersAreData passes members = true)
    {m : Member} (hm : m ∈ members) : ∃ span key value, m = .property span key .value value ∧
      passes m = true ∧ value.isData passes = true := by
  induction members with
  | nil => cases hm
  | cons first rest ih =>
      cases first with
      | spread span e => cases h
      | property span key kind value =>
          cases kind with
          | value =>
              obtain ⟨hfirst, hrest⟩ := Bool.and_eq_true_iff.mp h
              obtain ⟨hpasses, hvalue⟩ := Bool.and_eq_true_iff.mp hfirst
              rcases List.mem_cons.mp hm with rfl | hm
              · exact ⟨span, key, value, rfl, hpasses, hvalue⟩
              · exact ih hrest hm
          | shorthand | method | getter | setter => cases h

end Script

namespace Static

variable {passes : Member → Bool} (scope : Option Scope)

theorem number_eq_none_iff {b : Binary64} :
    number b = none ↔ ∃ negative, b = .infinite negative := by
  cases b with
  | infinite negative => exact iff_of_true rfl ⟨negative, rfl⟩
  | finite negative mantissa exponent =>
      have hsome : number (.finite negative mantissa exponent) ≠ none := by
        unfold number
        dsimp only
        split
        · split <;> nofun
        · nofun
      exact iff_of_false hsome (by simp)

/-- Of all literals only a number that is not finite has no value. -/
theorem staticValue_eq_none_iff {e : Expr} (h : e.isData passes = true) :
    e.staticValue scope = none ↔ ∃ span negative, e = .number span (.infinite negative) := by
  cases e with
  | number span b => simp [Expr.staticValue, valueWith, number_eq_none_iff]
  | string span s | boolean span b | null span | array span elements | object span members =>
      simp [Expr.staticValue, valueWith]
  | _ => cases h

/-- The value of a literal, `null` for one that has none. -/
def read (e : Expr) : Json := (e.staticValue scope).getD .null

theorem read_number (span : Span) (b : Binary64) :
    read scope (.number span b) = .null ∨ ∃ n, read scope (.number span b) = .number n := by
  have hread : read scope (.number span b) = (number b).getD .null := rfl
  rw [hread]
  cases hnumber : number b with
  | none => exact .inl rfl
  | some v => exact .inr (eq_number_of_number hnumber)

theorem staticAt?_of_isData {m : Member} {span : Span} {k : Key} {value : Expr}
    (hm : m = .property span k .value value) (hvalue : value.isData passes = true) (key : String) :
    m.staticAt? scope key = if m.kept? = some key then some (read scope value) else none := by
  subst hm
  have hat : (Member.property span k .value value).staticAt? scope key =
      k.text?.bind fun name => if name = key then value.staticValue scope else none := by
    rw [Member.staticAt?, Member.plain?, Option.bind_map]
    rfl
  rw [hat, read]
  cases hread : value.staticValue scope with
  | none =>
      obtain ⟨span', negative, rfl⟩ := (staticValue_eq_none_iff scope hvalue).mp hread
      cases k.text? <;> simp [Member.kept?]
  | some v =>
      have hkept : (Member.property span k .value value).kept? = k.text? := by
        unfold Member.kept?
        split
        · rename_i heq
          cases heq
          cases hread
        · rename_i heq
          cases heq
          rfl
        · rename_i heq
          cases heq
      rw [hkept]
      cases k.text? <;> simp

section Paths

variable {named : Member → Option String} (hnamed : ∀ m, passes m = true → named m = m.kept?)

include hnamed in
/-- The value that is read for a name is that of the last member that defines it. -/
theorem member?_of_isData {members : List Member} (h : membersAreData passes members = true)
    (key : String) :
    Json.member? (membersWith (ofName scope) [] members) key =
      ((members.reverse.find? (named · = some key)).bind Member.value?).map (read scope) := by
  have hat : ∀ m ∈ members.reverse, ∃ e, m.value? = some e ∧
      m.staticAt? scope key = if named m = some key then some (read scope e) else none := by
    intro m hm
    obtain ⟨span, k, value, heq, hpasses, hvalue⟩ := exists_property h (List.mem_reverse.mp hm)
    refine ⟨value, by rw [heq]; rfl, ?_⟩
    rw [staticAt?_of_isData scope heq hvalue, hnamed m hpasses]
  rw [member?_membersWith]
  generalize members.reverse = ms at hat ⊢
  induction ms with
  | nil => rfl
  | cons m rest ih =>
      obtain ⟨e, hvalue, hm⟩ := hat m List.mem_cons_self
      have hrest := ih fun other hother => hat other (List.mem_cons_of_mem m hother)
      rw [List.findSome?_cons, List.find?_cons, hm]
      by_cases hkey : named m = some key
      · simp [hkey, hvalue]
      · simpa [hkey] using hrest

theorem getElem?_itemsWith {elements : List Element} (h : elementsAreData passes elements = true)
    (i : Nat) : (itemsWith (ofName scope) elements)[i]? =
      (elements[i]?.bind Element.expression?).map (read scope) := by
  induction elements generalizing i with
  | nil => rfl
  | cons first rest ih =>
      cases first with
      | item e =>
          cases i with
          | zero => rfl
          | succ i => exact ih (Bool.and_eq_true_iff.mp h).2 i
      | spread span e | hole span => cases h

include hnamed in
/-- A step leads from a literal to a literal, and from its value to the value of that one. -/
theorem next?_read {e : Expr} (h : e.isData passes = true) (step : Json.Step) :
    (read scope e).next? step = (e.next? named step).map (read scope) ∧
      ∀ inner, e.next? named step = some inner → inner.isData passes = true := by
  cases e with
  | array span elements =>
      cases step with
      | member key => exact ⟨rfl, nofun⟩
      | item i =>
          refine ⟨getElem?_itemsWith scope h i, ?_⟩
          intro inner hinner
          obtain ⟨element, helement, hexpression⟩ := Option.bind_eq_some_iff.mp hinner
          obtain ⟨e, rfl, he⟩ := exists_item h helement
          cases hexpression
          exact he
  | object span members =>
      cases step with
      | item i => exact ⟨rfl, nofun⟩
      | member key =>
          refine ⟨member?_of_isData scope hnamed h key, ?_⟩
          intro inner hinner
          obtain ⟨m, hfound, hvalue⟩ := Option.bind_eq_some_iff.mp hinner
          have hmem := List.mem_reverse.mp (List.mem_of_find?_eq_some hfound)
          obtain ⟨span, key, value, rfl, -, hdata⟩ := exists_property h hmem
          cases hvalue
          exact hdata
  | number span b =>
      refine ⟨?_, by cases step <;> nofun⟩
      rcases read_number scope span b with hread | ⟨n, hread⟩ <;> rw [hread] <;>
        cases step <;> rfl
  | string span s | boolean span b | null span =>
      exact ⟨by cases step <;> rfl, by cases step <;> nofun⟩
  | _ => cases h

include hnamed in
/-- What stands at the end of a path in the literal is read as what stands there in the value. -/
theorem at?_read {e : Expr} (h : e.isData passes = true) (path : List Json.Step) :
    (read scope e).at? path = (e.at? named path).map (read scope) ∧
      ∀ inner, e.at? named path = some inner → inner.isData passes = true := by
  induction path generalizing e with
  | nil =>
      refine ⟨rfl, ?_⟩
      rintro inner ⟨⟩
      exact h
  | cons step path ih =>
      obtain ⟨hnext, hdata⟩ := next?_read scope hnamed h step
      rw [Json.at?, Expr.at?, hnext]
      cases hstep : e.next? named step with
      | none => exact ⟨rfl, nofun⟩
      | some next => exact ih (hdata next hstep)

include hnamed in
theorem mem_keys_of_isData {members : List Member} (h : membersAreData passes members = true)
    (key : String) :
    key ∈ (membersWith (ofName scope) [] members).map Prod.fst ↔
      key ∈ members.filterMap named := by
  have hfound : key ∈ (membersWith (ofName scope) [] members).map Prod.fst ↔
      (Json.member? (membersWith (ofName scope) [] members) key).isSome := by
    simp [Json.member?]
  rw [hfound, member?_of_isData scope hnamed h key, List.mem_filterMap, Option.isSome_map]
  constructor
  · intro hsome
    obtain ⟨value, hvalue⟩ := Option.isSome_iff_exists.mp hsome
    obtain ⟨m, hm, -⟩ := Option.bind_eq_some_iff.mp hvalue
    have hname := List.find?_some hm
    exact ⟨m, List.mem_reverse.mp (List.mem_of_find?_eq_some hm), of_decide_eq_true hname⟩
  · rintro ⟨m, hm, hname⟩
    obtain ⟨found, hmem, hfound⟩ := exists_find?_reverse hm hname
    obtain ⟨span, k, value, rfl, -, -⟩ := exists_property h hmem
    rw [hfound]
    rfl

include hnamed in
theorem read_hasNames {e : Expr} (h : e.isData passes = true) :
    (read scope e).HasNames named e := by
  constructor
  · intro path span members he
    obtain ⟨hat, hdata⟩ := at?_read scope hnamed h path
    rw [he] at hat
    refine ⟨_, hat, fun key => ?_⟩
    exact mem_keys_of_isData scope hnamed (hdata _ he) key
  · intro path ms hv
    obtain ⟨hat, hdata⟩ := at?_read scope hnamed h path
    rw [hv] at hat
    obtain ⟨inner, hinner, hread⟩ := Option.map_eq_some_iff.mp hat.symm
    have hliteral := hdata inner hinner
    cases inner with
    | object span members => exact ⟨span, members, hinner⟩
    | number span b =>
        rcases read_number scope span b with hnull | ⟨n, hnumber⟩
        · cases hread.symm.trans hnull
        · cases hread.symm.trans hnumber
    | string span s | boolean span b | null span | array span elements => cases hread
    | _ => cases hliteral

end Paths

end Static

/-- Of all literals only a number that is not finite has no value.  Every other one is read as a
value whose objects, however deep, have the names of those members whose key is a name or a string
and whose value is no such number.  Without other members they have the names that the literal
gives them when it is run. -/
theorem Script.Expr.staticValue_names (scope : Option Scope) (e : Expr)
    (h : e.isData Member.isWritten = true) :
    (e.staticValue scope = none ↔ ∃ span negative, e = .number span (.infinite negative)) ∧
      ∀ v, e.staticValue scope = some v → v.HasNames Member.kept? e ∧
        (e.isData (fun m => m.isWritten && m.kept?.isSome) = true → v.HasNames Member.name? e) := by
  refine ⟨Static.staticValue_eq_none_iff scope h, ?_⟩
  intro v hv
  have hread : Static.read scope e = v := by rw [Static.read, hv, Option.getD_some]
  rw [← hread]
  refine ⟨Static.read_hasNames scope (fun _ _ => rfl) h, ?_⟩
  intro hkept
  apply Static.read_hasNames scope _ hkept
  intro m hm
  exact m.name?_eq_kept? (Bool.and_eq_true_iff.mp hm).2

namespace Widths

def text (s : String) : Expr := .string ⟨0, 0⟩ s

def property (key : Key) (value : Expr) : Member := .property ⟨0, 0⟩ key .value value

/-- `[{ 'a b': 1e999, a: null, a: { 320: 'c', b: 'd' } }, true]` -/
def nested : Expr :=
  .array ⟨0, 0⟩
    [.item (.object ⟨0, 0⟩
      [property (.string "a b") (.number ⟨0, 0⟩ (.infinite false)),
        property (.name "a") (.null ⟨0, 0⟩),
        property (.name "a") (.object ⟨0, 0⟩
          [property (.number (.ofNat 320)) (text "c"), property (.name "b") (text "d")])]),
      .item (.boolean ⟨0, 0⟩ true)]

/-- `{ a: null, a: { b: 'd' } }` -/
def named : Expr :=
  .object ⟨0, 0⟩ [property (.name "a") (.null ⟨0, 0⟩),
    property (.name "a") (.object ⟨0, 0⟩ [property (.name "b") (text "d")])]

end Widths

open Widths in
theorem Script.Expr.staticValue_names_nested :
    nested.isData Member.isWritten = true ∧
      (∃ v, nested.staticValue none = some v ∧ v.HasNames Member.kept? nested) ∧
      named.isData (fun m => m.isWritten && m.kept?.isSome) = true ∧
      ∃ v, named.staticValue none = some v ∧ v.HasNames Member.name? named := by
  have hnested : nested.isData Member.isWritten = true := by decide +kernel
  have hnamed : named.isData Member.isWritten = true := by decide +kernel
  have hkept : named.isData (fun m => m.isWritten && m.kept?.isSome) = true := by decide +kernel
  obtain ⟨-, hread⟩ := staticValue_names none nested hnested
  obtain ⟨-, hread'⟩ := staticValue_names none named hnamed
  exact ⟨hnested, ⟨_, rfl, (hread _ rfl).1⟩, hkept, ⟨_, rfl, (hread' _ rfl).2 hkept⟩⟩

namespace Widths

/-- A description with options for each width. -/
def source : Source := ⟨"readme.js", .js, "module.exports = \x7b widths: \x7b 320: 'a' \x7d \x7d;"⟩

def isNumbered : List Member → Bool
  | [.property _ (.name name) .value (.object _ [.property _ (.number n) .value (.string _ _)])] =>
    name == "widths" && n.propertyName == "320"
  | _ => false

theorem exists_of_isNumbered {members : List Member} (h : isNumbered members) :
    ∃ outer inner whole span n text, n.propertyName = "320" ∧ members =
      [.property outer (.name "widths") .value
        (.object whole [.property inner (.number n) .value (.string span text)])] := by
  unfold isNumbered at h
  split at h
  · obtain ⟨rfl, hn⟩ : _ = _ ∧ _ = _ := by simpa using h
    exact ⟨_, _, _, _, _, _, hn, rfl⟩
  · cases h

end Widths

open Widths in
theorem numbered_members_left_out :
    ¬ ∀ (source : Source) (object : ObjectLiteral) (scope : Scope),
      source.exported = .ok (object, scope) →
        (Expr.object object.span object.members).isData Member.isWritten = true →
          (object.staticValue (some scope)).HasNames Member.name?
            (.object object.span object.members) := by
  intro hall
  have hread : (source.exported.toOption.map fun found => isNumbered found.1.members) =
      some true := by decide +kernel
  obtain ⟨⟨⟨span, members⟩, scope⟩, hfound, hmembers⟩ := Option.map_eq_some_iff.mp hread
  obtain ⟨outer, inner, whole, span', n, text, hn, rfl⟩ := exists_of_isNumbered hmembers
  have hdata : (Expr.object span [.property outer (.name "widths") .value
      (.object whole [.property inner (.number n) .value (.string span' text)])]).isData
        Member.isWritten = true := by
    simp [Expr.isData, membersAreData, Member.isWritten, Key.propertyName?, hn]
  obtain ⟨hnames, -⟩ := hall source _ scope (eq_ok_of_toOption hfound) hdata
  obtain ⟨ms, hms, hkeys⟩ := hnames [.member "widths"] whole _ rfl
  cases hms
  have hempty : Static.membersWith (Static.ofName (some scope)) []
      [.property inner (.number n) .value (.string span' text)] = [] := rfl
  have hkey := (hkeys "320").mpr (by simp [Member.name?, Key.propertyName?, hn])
  rw [hempty] at hkey
  cases hkey

end Showcase
