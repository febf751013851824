import Mathlib.Data.Finset.Card
import Showcase.Proofs.Reading.Findings
import Showcase.Script.Declarations

namespace Showcase

open Script

/-!
# The first binder of a name

The scope of a program is built binder by binder, and a binder is put in unless its name is bound.
What comes out is the map from each name to the first of its binders, so statements that are added
at the end change nothing for a name that is bound before them.
-/

namespace Script

/-- `b` is what a declaration binds in the place `i`. -/
inductive Declaration.Binds : Declaration → Nat → Binding → Prop
  | declarator {ds : List Declarator} {i : Nat} {d : Declarator} (h : ds[i]? = some d) :
      Binds (.declarators ds) i ⟨.variable, d.name, d.initial, none⟩
  | function (id : Identifier) : Binds (.function (some id)) 0 ⟨.function, id, none, none⟩
  | ofClass (id : Identifier) : Binds (.ofClass (some id)) 0 ⟨.ofClass, id, none, none⟩

/-- `b` is what a statement binds in the place `i`. -/
inductive Statement.Binds : Statement → Nat → Binding → Prop
  | declared {d : Declaration} {i : Nat} {b : Binding} (h : d.Binds i b) :
      Binds (.declaration d) i b
  | exported {d : Declaration} {i : Nat} {b : Binding} (h : d.Binds i b) :
      Binds (.exportDeclaration d) i b
  | imported {names : List Identifier} {i : Nat} {id : Identifier} (module : String)
      (h : names[i]? = some id) :
      Binds (.importing names module) i ⟨.imported, id, none, some module⟩

theorem Declaration.binds_iff {d : Declaration} {i : Nat} {b : Binding} :
    d.Binds i b ↔ d.bindings[i]? = some b := by
  constructor
  · intro h
    cases h with
    | declarator h => rw [bindings, List.getElem?_map, h, Option.map_some]
    | function id | ofClass id => rfl
  · intro h
    cases d with
    | declarators ds =>
        rw [bindings, List.getElem?_map] at h
        obtain ⟨d, hd, rfl⟩ := Option.map_eq_some_iff.mp h
        exact .declarator hd
    | function name | ofClass name =>
        cases name with
        | none => cases h
        | some id =>
            obtain ⟨rfl, rfl⟩ : i = 0 ∧ _ = b := by
              simpa [bindings, List.getElem?_singleton] using h
            constructor
    | typed => cases h

theorem Statement.binds_iff {statement : Statement} {i : Nat} {b : Binding} :
    statement.Binds i b ↔ statement.bindings[i]? = some b := by
  constructor
  · intro h
    cases h with
    | declared h | exported h => exact Declaration.binds_iff.mp h
    | imported module h => rw [bindings, List.getElem?_map, h, Option.map_some]
  · intro h
    cases statement with
    | declaration d => exact .declared (Declaration.binds_iff.mpr h)
    | exportDeclaration d => exact .exported (Declaration.binds_iff.mpr h)
    | importing names module =>
        rw [bindings, List.getElem?_map] at h
        obtain ⟨id, hid, rfl⟩ := Option.map_eq_some_iff.mp h
        exact .imported module hid
    | _ => cases h

/-- Of the patterns of a variable statement, those that are plain names bind something. -/
theorem Declaration.binds_namedDeclarators_iff {values : List Parse.BoundValue} {b : Binding} :
    (∃ i, (declarators (Parse.namedDeclarators values)).Binds i b) ↔
      ∃ v ∈ values, ∃ id, v.pattern = .name id ∧ b = ⟨.variable, id, v.initial, none⟩ := by
  simp only [binds_iff, ← List.mem_iff_getElem?, bindings, Parse.namedDeclarators, List.mem_map,
    List.mem_filterMap]
  constructor
  · rintro ⟨d, ⟨v, hv, hd⟩, rfl⟩
    split at hd
    · rename_i id hid
      cases hd
      exact ⟨v, hv, id, hid, rfl⟩
    · cases hd
  · rintro ⟨v, hv, id, hid, rfl⟩
    exact ⟨⟨id, v.initial⟩, ⟨v, hv, by rw [hid]⟩, rfl⟩

theorem Statement.mem_bindings_iff {statement : Statement} {b : Binding} :
    b ∈ statement.bindings ↔ ∃ i, statement.Binds i b := by
  simp only [List.mem_iff_getElem?, binds_iff]

theorem Statement.find?_bindings_eq_none_iff {statement : Statement} {x : String} :
    statement.bindings.find? (·.name.name == x) = none ↔
      ∀ i b, statement.Binds i b → b.name.name ≠ x := by
  rw [List.find?_eq_none]
  constructor
  · intro h i b hb
    simpa using h b (mem_bindings_iff.mpr ⟨i, hb⟩)
  · intro h b hb
    obtain ⟨i, hi⟩ := mem_bindings_iff.mp hb
    simpa using h i b hi

theorem Statement.find?_bindings_eq_some_iff {statement : Statement} {x : String} {b : Binding} :
    statement.bindings.find? (·.name.name == x) = some b ↔
      ∃ i, statement.Binds i b ∧ b.name.name = x ∧
        ∀ j < i, ∀ other, statement.Binds j other → other.name.name ≠ x := by
  rw [List.find?_eq_some_iff_getElem]
  constructor
  · rintro ⟨hb, i, hi, rfl, hbefore⟩
    refine ⟨i, binds_iff.mpr (List.getElem?_eq_getElem hi), beq_iff_eq.mp hb, ?_⟩
    intro j hj other hother
    obtain ⟨hlt, rfl⟩ := List.getElem?_eq_some_iff.mp (binds_iff.mp hother)
    simpa using hbefore j hj
  · rintro ⟨i, hi, hb, hbefore⟩
    obtain ⟨hlt, rfl⟩ := List.getElem?_eq_some_iff.mp (binds_iff.mp hi)
    refine ⟨beq_iff_eq.mpr hb, i, hlt, rfl, fun j hj => ?_⟩
    simpa using hbefore j hj _ (binds_iff.mpr (List.getElem?_eq_getElem (hj.trans hlt)))

namespace Program

def Binds (program : Program) (x : String) : Prop :=
  ∃ statement ∈ program.body, ∃ i b, statement.Binds i b ∧ b.name.name = x

/-- `b` binds `x`, and neither a statement before it nor its own one before it does. -/
def FirstBinder (program : Program) (x : String) (b : Binding) : Prop :=
  ∃ before statement after i, program.body = before ++ statement :: after ∧
    statement.Binds i b ∧ b.name.name = x ∧
    (∀ earlier ∈ before, ∀ j other, earlier.Binds j other → other.name.name ≠ x) ∧
    ∀ j < i, ∀ other, statement.Binds j other → other.name.name ≠ x

theorem binds_iff {program : Program} {x : String} :
    program.Binds x ↔ ∃ b ∈ program.bindings, b.name.name = x := by
  simp only [Binds, bindings, List.mem_flatMap, Statement.mem_bindings_iff]
  constructor
  · rintro ⟨statement, hmem, i, b, hbinds, hx⟩
    exact ⟨b, ⟨statement, hmem, i, hbinds⟩, hx⟩
  · rintro ⟨b, ⟨statement, hmem, i, hbinds⟩, hx⟩
    exact ⟨statement, hmem, i, b, hbinds, hx⟩

theorem find?_bindings_eq_some_iff {program : Program} {x : String} {b : Binding} :
    program.bindings.find? (·.name.name == x) = some b ↔ program.FirstBinder x b := by
  rw [bindings, List.find?_flatMap, List.findSome?_eq_some_iff]
  simp only [Statement.find?_bindings_eq_some_iff, Statement.find?_bindings_eq_none_iff]
  constructor
  · rintro ⟨before, statement, after, hbody, ⟨i, hb, hx, hfirst⟩, hbefore⟩
    exact ⟨before, statement, after, i, hbody, hb, hx, hbefore, hfirst⟩
  · rintro ⟨before, statement, after, i, hbody, hb, hx, hbefore, hfirst⟩
    exact ⟨before, statement, after, hbody, ⟨i, hb, hx, hfirst⟩, hbefore⟩

end Program

end Script

namespace Scope

/-- The names that are bound, in the order in which they were put in. -/
def names (scope : Scope) : List String := scope.bindings.map (·.name.name)

theorem get?_isSome_iff (scope : Scope) (x : String) : (scope.get? x).isSome ↔ x ∈ scope.names := by
  simp [get?, names]

/-! ## One binding for each name -/

theorem nodup_names_insert {scope : Scope} (h : scope.names.Nodup) (b : Binding) :
    (scope.insert b).names.Nodup := by
  unfold insert
  split
  · exact h
  · rename_i hget
    have hfresh : b.name.name ∉ scope.names := by
      rw [← get?_isSome_iff, hget]
      exact Bool.false_ne_true
    have hnames : names ⟨scope.bindings ++ [b]⟩ = scope.names ++ [b.name.name] := List.map_append
    rw [hnames, ← List.concat_eq_append]
    exact h.concat hfresh

theorem nodup_names_foldl_insert {scope : Scope} (h : scope.names.Nodup) (bs : List Binding) :
    (bs.foldl insert scope).names.Nodup := by
  induction bs generalizing scope with
  | nil => exact h
  | cons b rest ih => exact ih (nodup_names_insert h b)

theorem nodup_names_ofProgram (program : Program) : (ofProgram program).names.Nodup :=
  nodup_names_foldl_insert (show empty.names.Nodup from List.nodup_nil) program.bindings

section Lookup

variable {program : Program} {x : String}

theorem get?_eq_some_iff {b : Binding} :
    (ofProgram program).get? x = some b ↔ program.FirstBinder x b := by
  rw [get?_ofProgram, Program.find?_bindings_eq_some_iff]

theorem get?_eq_none_iff : (ofProgram program).get? x = none ↔ ¬ program.Binds x := by
  rw [get?_ofProgram, List.find?_eq_none, Program.binds_iff]
  simp

theorem mem_names_ofProgram : x ∈ (ofProgram program).names ↔ program.Binds x := by
  rw [← get?_isSome_iff, Option.isSome_iff_ne_none, ne_eq, get?_eq_none_iff, not_not]

theorem get?_ofProgram_append (body more : List Statement) (x : String) :
    (ofProgram ⟨body ++ more⟩).get? x =
      ((ofProgram ⟨body⟩).get? x).or ((ofProgram ⟨more⟩).get? x) := by
  simp only [get?_ofProgram, Program.bindings, List.flatMap_append, List.find?_append]

/-- What comes behind the statements that bind a name does not count for it. -/
theorem get?_ofProgram_of_binds (more : List Statement) (h : program.Binds x) :
    (ofProgram ⟨program.body ++ more⟩).get? x = (ofProgram program).get? x := by
  cases hget : (ofProgram program).get? x with
  | none => exact absurd h (get?_eq_none_iff.mp hget)
  | some b => rw [get?_ofProgram_append, hget, Option.some_or]

variable {scope : Scope}

theorem lookup_eq_initializer_iff {e : Expr} :
    scope.lookup x = .initializer e ↔
      ∃ b, scope.get? x = some b ∧ b.kind = .variable ∧ b.initial = some e := by
  rcases scope.lookup_cases x with
    ⟨hget, hlookup⟩ | ⟨b, hget, ⟨v, hkind, hinitial, hlookup⟩ | ⟨hbare, hlookup⟩⟩
  · simp [hget, hlookup]
  · simp [hget, hlookup, hkind, hinitial]
  · rw [hget, hlookup]
    refine ⟨nofun, ?_⟩
    rintro ⟨found, hfound, hkind, hinitial⟩
    cases hfound
    rw [hbare hkind] at hinitial
    cases hinitial

theorem lookup_eq_noInitializer_iff {b : Binding} :
    scope.lookup x = .noInitializer b ↔
      scope.get? x = some b ∧ ¬ ∃ e, b.kind = .variable ∧ b.initial = some e := by
  rcases scope.lookup_cases x with
    ⟨hget, hlookup⟩ | ⟨found, hget, ⟨v, hkind, hinitial, hlookup⟩ | ⟨hbare, hlookup⟩⟩
  · simp [hget, hlookup]
  · rw [hget, hlookup]
    refine ⟨nofun, ?_⟩
    rintro ⟨hfound, hnone⟩
    cases hfound
    exact absurd ⟨v, hkind, hinitial⟩ hnone
  · rw [hget, hlookup]
    constructor
    · intro h
      cases h
      refine ⟨rfl, ?_⟩
      rintro ⟨e, hkind, hinitial⟩
      rw [hbare hkind] at hinitial
      cases hinitial
    · rintro ⟨hfound, -⟩
      cases hfound
      rfl

theorem lookup_eq_undeclared_iff : scope.lookup x = .undeclared ↔ scope.get? x = none := by
  rcases scope.lookup_cases x with
    ⟨hget, hlookup⟩ | ⟨b, hget, ⟨v, -, -, hlookup⟩ | ⟨-, hlookup⟩⟩ <;>
    simp [hget, hlookup]

end Lookup

/-- The scope of a program maps each name to its first binder, and whether a name can be followed
is told from that binder alone. -/
theorem ofProgram_first_binders (program : Program) :
    (∀ (values : List Parse.BoundValue) (b : Binding),
      (∃ i, (Declaration.declarators (Parse.namedDeclarators values)).Binds i b) ↔
        ∃ v ∈ values, ∃ id, v.pattern = .name id ∧ b = ⟨.variable, id, v.initial, none⟩) ∧
    (∀ x b, (ofProgram program).get? x = some b ↔ program.FirstBinder x b) ∧
    (∀ x, (ofProgram program).get? x = none ↔ ¬ program.Binds x) ∧
    (∃ names : Finset String,
      (∀ x, x ∈ names ↔ program.Binds x) ∧ (ofProgram program).size = names.card) ∧
    (∀ x e, (ofProgram program).lookup x = .initializer e ↔
      ∃ b, program.FirstBinder x b ∧ b.kind = .variable ∧ b.initial = some e) ∧
    (∀ x b, (ofProgram program).lookup x = .noInitializer b ↔
      program.FirstBinder x b ∧ ¬ ∃ e, b.kind = .variable ∧ b.initial = some e) ∧
    (∀ x, (ofProgram program).lookup x = .undeclared ↔ ¬ program.Binds x) ∧
    ∀ more x, program.Binds x →
      (ofProgram ⟨program.body ++ more⟩).get? x = (ofProgram program).get? x ∧
        (ofProgram ⟨program.body ++ more⟩).lookup x = (ofProgram program).lookup x := by
  refine ⟨fun values b => Declaration.binds_namedDeclarators_iff, fun x b => get?_eq_some_iff,
    fun x => get?_eq_none_iff, ?_, ?_, ?_, ?_, ?_⟩
  · refine ⟨(ofProgram program).names.toFinset, fun x => ?_, ?_⟩
    · rw [List.mem_toFinset, mem_names_ofProgram]
    · rw [List.toFinset_card_of_nodup (nodup_names_ofProgram program)]
      exact (List.length_map ..).symm
  · intro x e
    simp only [lookup_eq_initializer_iff, get?_eq_some_iff]
  · intro x b
    rw [lookup_eq_noInitializer_iff, get?_eq_some_iff]
  · intro x
    rw [lookup_eq_undeclared_iff, get?_eq_none_iff]
  · intro more x hbinds
    have hget := get?_ofProgram_of_binds more hbinds
    refine ⟨hget, ?_⟩
    rw [lookup, lookup, hget]

namespace Redeclared

def constant (x : String) (span : Span) (initial : Option Expr) : Declaration :=
  .declarators [⟨⟨x, span⟩, initial⟩]

/-- `import { Card } from './card'; let later; export function later() {}` -/
def program : Program :=
  ⟨[.importing [⟨"Card", ⟨9, 13⟩⟩] "./card", .declaration (constant "later" ⟨36, 41⟩ none),
    .exportDeclaration (.function (some ⟨"later", ⟨59, 64⟩⟩))]⟩

/-- `var later = {}` -/
def completion : Statement := .declaration (constant "later" ⟨4, 9⟩ (some (.object ⟨12, 14⟩ [])))

end Redeclared

open Redeclared in
theorem ofProgram_first_binders_redeclared :
    program.Binds "later" ∧
      (ofProgram program).lookup "later" =
        .noInitializer ⟨.variable, ⟨"later", ⟨36, 41⟩⟩, none, none⟩ ∧
      (ofProgram ⟨program.body ++ [completion]⟩).lookup "later" =
        .noInitializer ⟨.variable, ⟨"later", ⟨36, 41⟩⟩, none, none⟩ := by
  have hbinds : program.Binds "later" := by
    refine ⟨.declaration (constant "later" ⟨36, 41⟩ none), ?_, 0, _,
      .declared (.declarator rfl), rfl⟩
    simp [program]
  obtain ⟨-, -, -, -, -, -, -, hmore⟩ := ofProgram_first_binders program
  exact ⟨hbinds, rfl, (hmore [completion] "later" hbinds).2⟩

end Scope

end Showcase
