import Showcase.Proofs.Folder.Entries
import Showcase.Proofs.Reading.Overriding

namespace Showcase

open Script

/-!
# Props among the options

The options of a pair are read twice: as a static value, and for a member `props` whose text is
shown in place of the code.  The first reader keeps the last member of that name which has a static
value, the second takes the first plain one, so they read one member unless a later one has a
static value.
-/

namespace Script.Member

/-- The value of a plain member named `key`. -/
def valueAt? (key : String) (m : Member) : Option Expr :=
  m.plain?.bind fun (name, value) => if name = key then some value else none

theorem valueAt?_eq_some_iff {key : String} {m : Member} {value : Expr} :
    m.valueAt? key = some value ↔ m.plain? = some (key, value) := by
  unfold valueAt?
  cases m.plain? with
  | none => simp
  | some pair => simp [Prod.ext_iff]

theorem exists_plain?_of_staticAt? {scope : Option Scope} {key : String} {m : Member} {v : Json}
    (h : m.staticAt? scope key = some v) :
    ∃ value, m.plain? = some (key, value) ∧ value.staticValue scope = some v := by
  obtain ⟨⟨name, value⟩, hplain, hvalue⟩ := Option.bind_eq_some_iff.mp h
  obtain ⟨rfl, hstatic⟩ := Option.ite_none_right_eq_some.mp hvalue
  exact ⟨value, hplain, hstatic⟩

end Script.Member

/-- An object taken apart at one of its members. -/
@[ext]
structure ObjectLiteral.Place (object : ObjectLiteral) where
  before : List Member
  member : Member
  after : List Member
  members_eq : object.members = before ++ member :: after

namespace ObjectLiteral.Place

variable {object : ObjectLiteral} {key : String} {scope : Option Scope}

/-- The first plain member of a name, with its value. -/
structure IsFirst (p : object.Place) (key : String) (value : Expr) : Prop where
  plain : p.member.plain? = some (key, value)
  before : ∀ other ∈ p.before, ∀ v, other.plain? ≠ some (key, v)

/-- The last member that gives a name a static value. -/
structure IsLast (p : object.Place) (scope : Option Scope) (key : String) (v : Json) : Prop where
  static : p.member.staticAt? scope key = some v
  after : ∀ other ∈ p.after, other.staticAt? scope key = none

theorem eq_or_mem (p q : object.Place) :
    p = q ∨ q.member ∈ p.after ∨ q.member ∈ p.before := by
  have hmembers : p.before ++ p.member :: p.after = q.before ++ q.member :: q.after :=
    p.members_eq.symm.trans q.members_eq
  rcases List.append_eq_append_iff.mp hmembers with ⟨between, hq, hp⟩ | ⟨between, hp, hq⟩
  · cases between with
    | nil =>
        obtain ⟨hmember, hafter⟩ := List.cons.inj hp
        exact .inl (Place.ext (by simpa using hq.symm) hmember hafter)
    | cons m rest =>
        obtain ⟨-, hafter⟩ := List.cons.inj hp
        refine .inr (.inl ?_)
        rw [hafter]
        exact List.mem_append_right rest List.mem_cons_self
  · cases between with
    | nil =>
        obtain ⟨hmember, hafter⟩ := List.cons.inj hq
        exact .inl (Place.ext (by simpa using hp) hmember.symm hafter.symm)
    | cons m rest =>
        obtain ⟨rfl, -⟩ := List.cons.inj hq
        refine .inr (.inr ?_)
        rw [hp]
        exact List.mem_append_right q.before List.mem_cons_self

/-- Both searches end at one member unless a member behind the first has a static value. -/
theorem IsFirst.eq_iff {p q : object.Place} {value : Expr} {v : Json} (hp : p.IsFirst key value)
    (hq : q.IsLast scope key v) :
    p = q ↔ ∀ other ∈ p.after, other.staticAt? scope key = none := by
  constructor
  · rintro rfl
    exact hq.after
  · intro hafter
    rcases p.eq_or_mem q with heq | hmem | hmem
    · exact heq
    · have hnone := hafter _ hmem
      rw [hq.static] at hnone
      cases hnone
    · obtain ⟨initial, hplain, -⟩ := Member.exists_plain?_of_staticAt? hq.static
      exact absurd hplain (hp.before _ hmem initial)

end ObjectLiteral.Place

namespace ObjectLiteral

variable {object : ObjectLiteral} {key : String} {scope : Option Scope}

theorem find?_eq_findSome? (object : ObjectLiteral) (key : String) :
    object.find? key = object.members.findSome? (·.valueAt? key) := by
  unfold find?
  congr 1
  funext m
  unfold Member.valueAt?
  cases m.plain? <;> rfl

theorem exists_isFirst_iff {value : Expr} :
    object.find? key = some value ↔ ∃ p : object.Place, p.IsFirst key value := by
  rw [find?_eq_findSome?, List.findSome?_eq_some_iff]
  simp only [Option.eq_none_iff_forall_ne_some, ne_eq, Member.valueAt?_eq_some_iff]
  constructor
  · rintro ⟨before, m, after, hmembers, hm, hbefore⟩
    exact ⟨⟨before, m, after, hmembers⟩, hm, hbefore⟩
  · rintro ⟨p, hm, hbefore⟩
    exact ⟨p.before, p.member, p.after, p.members_eq, hm, hbefore⟩

theorem exists_isLast_iff {v : Json} :
    Json.member? (Static.membersWith (Static.ofName scope) [] object.members) key = some v ↔
      ∃ p : object.Place, p.IsLast scope key v := by
  rw [Static.member?_membersWith, Json.member?, List.find?_nil, Option.map_none, Option.or_none,
    member?_eq_some_iff]
  constructor
  · rintro ⟨before, m, after, hmembers, hm, hafter⟩
    exact ⟨⟨before, m, after, hmembers⟩, hm, hafter⟩
  · rintro ⟨p, hm, hafter⟩
    exact ⟨p.before, p.member, p.after, p.members_eq, hm, hafter⟩

end ObjectLiteral

/-! ## The two readers -/

/-- The scope in which the members of the object that `e` stands for are read as values: none if
`e` is a name. -/
def Script.Expr.scopeWithin (scope : Option Scope) (e : Expr) : Option Scope :=
  match e.peel with
  | .identifier _ => none
  | _ => scope

theorem Static.valueWith_peel (reference : String → Option Json) (e : Expr) :
    valueWith reference e.peel = valueWith reference e := by
  fun_induction Expr.peel e with
  | case1 span wrapper inner ih => rw [ih, valueWith]
  | case2 e h => rfl

theorem Static.valueWith_of_peel {reference : String → Option Json} {e : Expr} {span : Span}
    {members : List Member} (h : e.peel = .object span members) :
    valueWith reference e = some (.object (membersWith reference [] members)) := by
  rw [← valueWith_peel, h, valueWith]

theorem Script.Expr.resolveObject_of_peel {scope : Option Scope} {e : Expr} {span : Span}
    {members : List Member} (h : e.peel = .object span members) :
    e.resolveObject scope = some ⟨span, members⟩ := by
  rw [resolveObject, resolve, h]

theorem Script.Expr.staticValue_of_resolveObject {scope : Option Scope} {e : Expr}
    {object : ObjectLiteral} (h : e.resolveObject scope = some object) :
    e.staticValue scope = some (object.staticValue (e.scopeWithin scope)) := by
  unfold resolveObject at h
  split at h
  · rename_i span members hresolve
    cases h
    unfold resolve at hresolve
    split at hresolve
    · rename_i id hid
      obtain ⟨v, hv, hpeel⟩ := Option.map_eq_some_iff.mp hresolve
      have hscope : e.scopeWithin scope = none := by rw [scopeWithin, hid]
      rw [staticValue, ← Static.valueWith_peel, hid, Static.valueWith, Static.ofName, hv,
        Option.bind_some, Static.closedValue, Static.valueWith_of_peel hpeel, hscope]
      rfl
    · rename_i hname
      have hpeel : e.peel = .object span members := Option.some.inj hresolve
      have hscope : e.scopeWithin scope = scope := by rw [scopeWithin, hpeel]
      rw [staticValue, Static.valueWith_of_peel hpeel, hscope]
      rfl
  · cases h

namespace PropsElement

section Readers

variable {source : String} {scope : Option Scope} {props : Option Expr} {options : Expr}
  {object : ObjectLiteral}

theorem readmeCode_tuple (h : options.resolveObject scope = some object) :
    ((tuple props (some options)).entry source scope).readmeCode =
      ((object.find? "props").bind (Expr.resolveObject scope)).map (·.span.text source) := by
  change objectText source scope (some "props") options = _
  rw [objectText_some, h, Option.bind_some]

theorem options_tuple (h : options.resolveObject scope = some object) :
    ((tuple props (some options)).entry source scope).options =
      some (.object (Static.membersWith (Static.ofName (options.scopeWithin scope)) []
        object.members)) :=
  Expr.staticValue_of_resolveObject h

end Readers

/-- The readme code of a pair is the text of the object that the first plain member `props` of its
options gives, and their static `props` is the value of the last such member that has one.  These
are one member if and only if no later one has a static value. -/
theorem props_of_options (source : String) (scope : Option Scope) (props : Option Expr)
    (options : Expr) (object : ObjectLiteral) (h : options.resolveObject scope = some object) :
    let entry := (tuple props (some options)).entry source scope
    let within := options.scopeWithin scope
    ∃ ms, entry.options = some (.object ms) ∧
      (∀ text, entry.readmeCode = some text ↔
        ∃ (p : object.Place) (value : Expr) (literal : ObjectLiteral), p.IsFirst "props" value ∧
          value.resolveObject scope = some literal ∧ text = literal.span.text source) ∧
      (∀ v, Json.member? ms "props" = some v ↔ ∃ q : object.Place, q.IsLast within "props" v) ∧
      (∀ (p q : object.Place) value v, p.IsFirst "props" value → q.IsLast within "props" v →
        (p = q ↔ ∀ other ∈ p.after, other.staticAt? within "props" = none)) ∧
      ∀ (p q : object.Place) value v initial span members, p.IsFirst "props" value →
        (∀ other ∈ p.after, other.staticAt? within "props" = none) →
        q.IsLast within "props" v → q.member.plain? = some ("props", initial) →
        initial.peel = .object span members → entry.readmeCode = some (span.text source) := by
  intro entry within
  have hreadme : entry.readmeCode =
      ((object.find? "props").bind (Expr.resolveObject scope)).map (·.span.text source) :=
    readmeCode_tuple h
  refine ⟨_, options_tuple h, ?_, ?_, ?_, ?_⟩
  · intro text
    rw [hreadme]
    constructor
    · intro htext
      obtain ⟨literal, hliteral, rfl⟩ := Option.map_eq_some_iff.mp htext
      obtain ⟨value, hvalue, hresolve⟩ := Option.bind_eq_some_iff.mp hliteral
      obtain ⟨p, hp⟩ := ObjectLiteral.exists_isFirst_iff.mp hvalue
      exact ⟨p, value, literal, hp, hresolve, rfl⟩
    · rintro ⟨p, value, literal, hp, hresolve, rfl⟩
      rw [ObjectLiteral.exists_isFirst_iff.mpr ⟨p, hp⟩, Option.bind_some, hresolve, Option.map_some]
  · intro v
    exact ObjectLiteral.exists_isLast_iff
  · intro p q value v hp hq
    exact hp.eq_iff hq
  · intro p q value v initial span members hp hafter hq hinitial hpeel
    obtain rfl := (hp.eq_iff hq).mpr hafter
    obtain rfl : value = initial := by simpa using hp.plain.symm.trans hinitial
    rw [hreadme, ObjectLiteral.exists_isFirst_iff.mpr ⟨p, hp⟩, Option.bind_some,
      Expr.resolveObject_of_peel hpeel]
    rfl

namespace Overridden

def code : String :=
  "[\x7b a: 1 \x7d, \x7b props: \x7b b: 'B' \x7d, props: \x7b c: 'C' \x7d \x7d]"

def shown : Member :=
  .property ⟨13, 30⟩ (.name "props") .value
    (.object ⟨20, 30⟩ [.property ⟨22, 28⟩ (.name "b") .value (.string ⟨25, 28⟩ "B")])

def kept : Member :=
  .property ⟨32, 49⟩ (.name "props") .value
    (.object ⟨39, 49⟩ [.property ⟨41, 47⟩ (.name "c") .value (.string ⟨44, 47⟩ "C")])

/-- The second half of the pair in `code`. -/
def object : ObjectLiteral := ⟨⟨11, 51⟩, [shown, kept]⟩

def options : Expr := .object object.span object.members

def first : object.Place := ⟨[], shown, [kept], rfl⟩

def last : object.Place := ⟨[shown], kept, [], rfl⟩

theorem first_isFirst : first.IsFirst "props"
    (.object ⟨20, 30⟩ [.property ⟨22, 28⟩ (.name "b") .value (.string ⟨25, 28⟩ "B")]) :=
  ⟨rfl, nofun⟩

theorem last_isLast : last.IsLast none "props" (.object [("c", .string "C")]) := ⟨rfl, nofun⟩

end Overridden

open Overridden in
theorem props_of_options_overridden :
    options.resolveObject none = some object ∧
      ((tuple none (some options)).entry code none).readmeCode = some "\x7b b: 'B' \x7d" ∧
      ∃ ms, ((tuple none (some options)).entry code none).options = some (.object ms) ∧
        Json.member? ms "props" = some (.object [("c", .string "C")]) := by
  have hobject : options.resolveObject none = some object := rfl
  obtain ⟨ms, hms, hreadme, hstatic, -⟩ := props_of_options code none none options object hobject
  refine ⟨hobject, (hreadme _).mpr ⟨first, _, _, first_isFirst, rfl, ?_⟩, ms, hms,
    (hstatic _).mpr ⟨last, last_isLast⟩⟩
  decide +kernel

open Overridden in
theorem props_of_options_not_always_one :
    ¬ ∀ (source : String) (scope : Option Scope) (props : Option Expr) (options : Expr)
        (object : ObjectLiteral), options.resolveObject scope = some object →
      ∀ (p q : object.Place) (value : Expr) (v : Json),
        ((tuple props (some options)).entry source scope).readmeCode.isSome →
          p.IsFirst "props" value → q.IsLast (options.scopeWithin scope) "props" v → p = q := by
  intro hall
  have hreadme : ((tuple none (some options)).entry code none).readmeCode.isSome := by
    decide +kernel
  have hone : first = last :=
    hall code none none options object rfl first last _ _ hreadme first_isFirst last_isLast
  cases congrArg ObjectLiteral.Place.before hone

end PropsElement

end Showcase
