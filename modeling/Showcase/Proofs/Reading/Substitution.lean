import Showcase.Proofs.Reading.Agreement
import Showcase.Proofs.Reading.Props

namespace Showcase

open Script

/-!
# Static values by substitution

The static value of an expression in a scope is that of another expression without any scope:
the one in which each name with an initial value is replaced by that value.  What is put in is
left as it stands, so its own names count for nothing, and it does not matter whether
declarations mention each other or themselves.
-/

/-- Whether a value is a name that stands for an initial value. -/
def Scope.replaces (scope : Scope) (value : Expr) : Bool :=
  (value.identifier?.bind fun id => scope.initializer? id.name).isSome

namespace Script

mutual

/-- An expression in which the names that are read as values are replaced by their initial
values.  Methods, accessors and spreads are not read, and neither is the operand of `-`. -/
def Expr.substituted (scope : Scope) : Expr → Expr
  | .identifier id => (scope.initializer? id.name).getD (.identifier id)
  | .wrapped span wrapper inner => .wrapped span wrapper (inner.substituted scope)
  | .array span elements => .array span (substitutedElements scope elements)
  | .object span members => .object span (substitutedMembers scope members)
  | e => e

def substitutedElements (scope : Scope) : List Element → List Element
  | [] => []
  | .item e :: rest => .item (e.substituted scope) :: substitutedElements scope rest
  | element :: rest => element :: substitutedElements scope rest

/-- A shorthand whose name is replaced is written out as `name: value`. -/
def substitutedMembers (scope : Scope) : List Member → List Member
  | [] => []
  | .property span key .value value :: rest =>
    .property span key .value (value.substituted scope) :: substitutedMembers scope rest
  | .property span key .shorthand value :: rest =>
    .property span key (if scope.replaces value then .value else .shorthand)
      (value.substituted scope) :: substitutedMembers scope rest
  | m :: rest => m :: substitutedMembers scope rest

end

end Script

namespace Static

variable (scope : Scope)

/-- A name and what is put in its place have one value. -/
theorem ofName_eq_closedValue (id : Identifier) :
    ofName (some scope) id.name = closedValue ((Expr.identifier id).substituted scope) := by
  rw [ofName, Expr.substituted, Option.bind_some]
  cases scope.initializer? id.name with
  | none => rfl
  | some e => rfl

mutual

theorem valueWith_substituted (e : Expr) :
    valueWith (ofName (some scope)) e = closedValue (e.substituted scope) := by
  cases e with
  | identifier id =>
      rw [valueWith]
      exact ofName_eq_closedValue scope id
  | wrapped span wrapper inner =>
      rw [valueWith, Expr.substituted, closedValue, valueWith]
      exact valueWith_substituted inner
  | array span elements =>
      rw [valueWith, Expr.substituted, closedValue, valueWith, itemsWith_substituted elements]
  | object span members =>
      rw [valueWith, Expr.substituted, closedValue, valueWith, membersWith_substituted members]
  | _ => rfl

theorem itemsWith_substituted (elements : List Element) :
    itemsWith (ofName (some scope)) elements =
      itemsWith (fun _ => none) (substitutedElements scope elements) := by
  cases elements with
  | nil => rfl
  | cons element rest =>
      have hrest := itemsWith_substituted rest
      cases element with
      | item e =>
          have he := valueWith_substituted e
          rw [itemsWith, substitutedElements, itemsWith, hrest, he, closedValue]
      | spread span e | hole span => simp only [itemsWith, substitutedElements, hrest]

theorem membersWith_substituted (members : List Member) (acc : List (String × Json)) :
    membersWith (ofName (some scope)) acc members =
      membersWith (fun _ => none) acc (substitutedMembers scope members) := by
  cases members with
  | nil => rfl
  | cons m rest =>
      have hrest := membersWith_substituted rest
      cases m with
      | spread span e => simp only [membersWith, substitutedMembers, hrest]
      | property span key kind value =>
          have hvalue := valueWith_substituted value
          rw [closedValue] at hvalue
          cases kind with
          | value => simp only [membersWith, substitutedMembers, hvalue, hrest]
          | shorthand =>
              simp only [substitutedMembers]
              split <;> simp [membersWith, hvalue, hrest]
          | method | getter | setter => simp [membersWith, substitutedMembers, hrest]

end

end Static

/-- A value that is read in a scope is read without it once its names are replaced.  It depends
on the scope only through the initial values of the names that occur in it. -/
theorem Script.Expr.staticValue_eq_substituted (scope : Scope) (e : Expr) :
    e.staticValue (some scope) = (e.substituted scope).staticValue none ∧
      ∀ other : Scope, (∀ x ∈ e.names, other.initializer? x = scope.initializer? x) →
        e.staticValue (some other) = e.staticValue (some scope) := by
  constructor
  · exact Static.valueWith_substituted scope e
  · intro other hagree
    apply Static.valueWith_congr
    intro x hx
    rw [Static.ofName, Static.ofName, Option.bind_some, Option.bind_some, hagree x hx]

namespace Cyclic

def reference (x : String) : Expr := .identifier ⟨x, ⟨0, 0⟩⟩

def bound (x : String) (value : Expr) : Binding := ⟨.variable, ⟨x, ⟨0, 0⟩⟩, some value, none⟩

/-- `const a = { self: a, peer: [b, 1] }, b = [a, 2]` -/
def scope : Scope :=
  ⟨[bound "a" (.object ⟨0, 0⟩
      [.property ⟨0, 0⟩ (.name "self") .value (reference "a"),
        .property ⟨0, 0⟩ (.name "peer") .value
          (.array ⟨0, 0⟩ [.item (reference "b"), .item (.string ⟨0, 0⟩ "1")])]),
    bound "b" (.array ⟨0, 0⟩ [.item (reference "a"), .item (.string ⟨0, 0⟩ "2")])]⟩

/-- `{ a, list: [(b), c] }` -/
def value : Expr :=
  .object ⟨0, 0⟩
    [.property ⟨0, 0⟩ (.name "a") .shorthand (reference "a"),
      .property ⟨0, 0⟩ (.name "list") .value
        (.array ⟨0, 0⟩ [.item (.wrapped ⟨0, 0⟩ .parentheses (reference "b")), .item (reference "c")])]

/-- The same declarations after one of another name. -/
def longer : Scope := ⟨bound "d" (reference "a") :: scope.bindings⟩

end Cyclic

open Cyclic in
theorem Script.Expr.staticValue_eq_substituted_cyclic :
    (∀ x ∈ value.names, longer.initializer? x = Cyclic.scope.initializer? x) ∧
      value.staticValue (some Cyclic.scope) = (value.substituted Cyclic.scope).staticValue none ∧
      value.staticValue (some longer) = some (.object
        [("a", .object [("peer", .array [.null, .string "1"])]),
          ("list", .array [.array [.null, .string "2"], .null])]) := by
  obtain ⟨hsubstituted, hother⟩ := staticValue_eq_substituted Cyclic.scope value
  have hagree : ∀ x ∈ value.names, longer.initializer? x = Cyclic.scope.initializer? x := by
    intro x hx
    have hx : x ∈ ["a", "b", "c"] := hx
    simp only [List.mem_cons, List.not_mem_nil, or_false] at hx
    rcases hx with rfl | rfl | rfl <;> rfl
  exact ⟨hagree, hsubstituted, (hother longer hagree).trans (by rfl)⟩

end Showcase
