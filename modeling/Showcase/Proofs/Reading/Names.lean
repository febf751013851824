import Showcase.Proofs.Reading.Findings

namespace Showcase

open Script

/-!
# The names that a reading depends on

A reader looks up only names that occur in what it reads, in the initial values of
those names, and so on.  On scopes that agree on a set of names closed under initial
values, every reading of an expression within the set is the same.
-/

namespace Script

mutual

/-- The names that occur in an expression. -/
def Expr.names : Expr → List String
  | .identifier id => [id.name]
  | .array _ elements => namesOfElements elements
  | .object _ members => namesOfMembers members
  | .wrapped _ _ inner => inner.names
  | .negation _ operand => operand.names
  | .member _ object _ => object.names
  | .assignment _ _ target value => target.names ++ value.names
  | _ => []

def namesOfElements : List Element → List String
  | [] => []
  | .item e :: rest => e.names ++ namesOfElements rest
  | .spread _ e :: rest => e.names ++ namesOfElements rest
  | .hole _ :: rest => namesOfElements rest

def namesOfMembers : List Member → List String
  | [] => []
  | .property _ _ _ value :: rest => value.names ++ namesOfMembers rest
  | .spread _ e :: rest => e.names ++ namesOfMembers rest

end

def Declaration.names : Declaration → List String
  | .declarators ds => ds.flatMap fun d => d.name.name :: (d.initial.elim [] Expr.names)
  | .function name | .ofClass name => name.toList.map (·.name)
  | .typed => []

/-- The names that a statement binds or mentions. -/
def Statement.names : Statement → List String
  | .expression _ e | .exportAssignment e | .exportDefault e => e.names
  | .declaration d | .exportDeclaration d => d.names
  | .importing names _ => names.map (·.name)
  | .importEquals name _ => [name.name]
  | .other => []

namespace Expr

/-- Every name in an expression belongs to a set. -/
def Within (N : String → Prop) (e : Expr) : Prop := ∀ x ∈ e.names, N x

variable {N : String → Prop}

@[simp] theorem within_identifier (id : Identifier) :
    (identifier id).Within N ↔ N id.name := by
  simp [Within, names]

@[simp] theorem names_peel (e : Expr) : e.peel.names = e.names := by
  fun_induction peel e with
  | case1 s w inner ih => rw [ih, names]
  | case2 => rfl

theorem within_peel {e : Expr} : e.peel.Within N ↔ e.Within N := by
  simp [Within]

end Expr

/-- Every name in an element belongs to a set. -/
def Element.Within (N : String → Prop) (element : Element) : Prop :=
  ∀ e, element.expression? = some e → e.Within N

variable {N : String → Prop}

theorem Expr.Within.elements {s : Span} {elements : List Element}
    (h : (Expr.array s elements).Within N) : ∀ element ∈ elements, element.Within N := by
  simp only [Expr.Within, Expr.names] at h
  induction elements with
  | nil => simp
  | cons first rest ih =>
      intro element hmem e he
      rcases List.mem_cons.mp hmem with rfl | hmem
      · cases element with
        | item v =>
            obtain rfl : v = e := by simpa [Element.expression?] using he
            exact fun x hx => h x (List.mem_append_left _ hx)
        | spread s v => simp [Element.expression?] at he
        | hole s => simp [Element.expression?] at he
      · refine ih (fun x hx => h x ?_) element hmem e he
        cases first <;> simp [namesOfElements, hx]

/-- Every name in the value of a member belongs to a set. -/
def Member.Within (N : String → Prop) : Member → Prop
  | .property _ _ _ value => value.Within N
  | .spread _ _ => True

end Script

/-- Every name in the members of an object belongs to a set. -/
def ObjectLiteral.Within (N : String → Prop) (object : ObjectLiteral) : Prop :=
  ∀ x ∈ namesOfMembers object.members, N x

section Objects

variable {N : String → Prop}

theorem within_of_mem {members : List Member} (h : ∀ x ∈ namesOfMembers members, N x) :
    ∀ m ∈ members, m.Within N := by
  induction members with
  | nil => simp
  | cons first rest ih =>
      intro m hm
      rcases List.mem_cons.mp hm with rfl | hm
      · cases m with
        | property s key kind value => exact fun x hx => h x (List.mem_append_left _ hx)
        | spread s e => exact trivial
      · refine ih (fun x hx => h x ?_) m hm
        cases first <;> simp [namesOfMembers, hx]

theorem Script.Member.Within.plain {m : Member} (h : m.Within N) {name : String} {value : Expr}
    (hm : m.plain? = some (name, value)) : value.Within N := by
  cases m with
  | spread s e => simp [Member.plain?] at hm
  | property s key kind v =>
      cases kind <;> simp [Member.plain?] at hm
      all_goals
        obtain ⟨a, ha, rfl, rfl⟩ := hm
        exact h

theorem ObjectLiteral.Within.find? {object : ObjectLiteral} (h : object.Within N)
    {name : String} {value : Expr} (hv : object.find? name = some value) : value.Within N := by
  obtain ⟨m, hm, hmv⟩ := List.exists_of_findSome?_eq_some hv
  cases hp : m.plain? with
  | none => simp [hp] at hmv
  | some p =>
      obtain ⟨n, v⟩ := p
      obtain ⟨-, rfl⟩ : n = name ∧ v = value := by simpa [hp] using hmv
      exact (within_of_mem h m hm).plain hp

end Objects

end Showcase
